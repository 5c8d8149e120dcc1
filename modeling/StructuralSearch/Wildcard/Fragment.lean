import StructuralSearch.Text.Occurrence

/-!
# Fragments

A pattern with `$` in it describes texts by their fixed fragments: the text begins with the first
one, ends with the last one, and holds the others between them in order and without overlap.  A
pattern without `$` describes itself only.
-/

namespace StructuralSearch

open Text

/-- Whether a text holds the wildcard character. -/
def hasWildcard (text : String) : Bool :=
  text.toList.contains '$'

/-- The number of characters other than the wildcard character. -/
def fixedLength (text : String) : Nat :=
  text.toList.countP (· != '$')

/-- Whether the fragments occur in order and without overlap, each looked for behind the leftmost
place of the one before it.  Empty fragments ask for nothing. -/
def occurInOrder : List (List Char) → List Char → Bool
  | [], _ => true
  | fragment :: fragments, text =>
    if fragment.isEmpty then occurInOrder fragments text
    else
      match afterFirst? fragment text with
      | some rest => occurInOrder fragments rest
      | none => false

/-- Whether `text` begins with the first fragment, ends with the last one without using a character
twice, and holds the middle ones in order in what is left. -/
def matchesFragments (first : List Char) (middle : List (List Char)) (last text : List Char) :
    Bool :=
  match (after? first text).bind (before? last) with
  | some inner => occurInOrder middle inner
  | none => false

/-- Whether the pattern describes the text. -/
def fragmentsMatch (pattern text : String) : Bool :=
  match splitOnChar '$' pattern.toList with
  | first :: second :: others =>
    let last := (second :: others).getLast (by simp)
    matchesFragments first (second :: others).dropLast last text.toList
  | _ => pattern == text

end StructuralSearch
