import StructuralSearch.Double.Basic

/-!
# Similarity of words

Two words are compared by the Jaro measure.  A character has a partner when an equal one that is
not yet taken stands at most half the longer length, less one, away from it.  The measure is the
mean of three shares: the partnered characters in each of the two words, and the partners that
meet in the same order.  Each step of the arithmetic is rounded to a double, which matters where
the measure lies on the bound from which on words are similar.
-/

namespace StructuralSearch.Text

/-- Takes the first place in a word, counted from `index` on, that lies from `low` up to `high`,
holds `c` and is still free, and says whether there was one. -/
def takePartner (c : Char) (low high index : Nat) : List (Char × Bool) → List (Char × Bool) × Bool
  | [] => ([], false)
  | (d, taken) :: word =>
    if low ≤ index ∧ index ≤ high ∧ c = d ∧ !taken then ((d, true) :: word, true)
    else
      let (word, found) := takePartner c low high (index + 1) word
      ((d, taken) :: word, found)

/-- The characters of the first word, from `index` on, that have partners, and the second word with
the taken places. -/
def partners (reach : Nat) (index : Nat) (word : List (Char × Bool)) :
    List Char → List Char × List (Char × Bool)
  | [] => ([], word)
  | c :: rest =>
    let (word, found) := takePartner c (index - reach) (index + reach) 0 word
    let (others, word) := partners reach (index + 1) word rest
    (if found then c :: others else others, word)

/-- The part that a count has of a whole. -/
def share (count whole : Nat) : Fraction :=
  Double.rounded ⟨count, whole⟩

/-- The Jaro measure of two words. -/
def similarity (a b : String) : Fraction :=
  let first := a.toList
  let second := b.toList
  let reach := max first.length second.length / 2 - 1
  let (mine, marked) := partners reach 0 (second.map (·, false)) first
  let yours := (marked.filter (·.2)).map (·.1)
  let count := mine.length
  if first.isEmpty ∧ second.isEmpty then ⟨1, 1⟩
  else if count = 0 then ⟨0, 1⟩
  else
    let displaced := ((mine.zip yours).filter fun (c, d) => c ≠ d).length / 2
    let found := Double.rounded ((share count first.length).add (share count second.length))
    let sum := Double.rounded (found.add (share (count - displaced) count))
    Double.rounded (sum.divide 3)

/-- The measure above which words are similar. -/
def similarityBound : Fraction :=
  share 7 10

/-- The candidate most similar to a word, the last one of equals, if any is similar enough. -/
def mostSimilar? (word : String) (candidates : List String) : Option String :=
  let ranked := (candidates.map fun candidate => (similarity word candidate, candidate)).filter
    fun (measure, _) => similarityBound.less measure
  (ranked.foldl (fun best next =>
    match best with
    | some (measure, candidate) =>
      if next.1.less measure then some (measure, candidate) else some next
    | none => some next) none).map (·.2)

end StructuralSearch.Text
