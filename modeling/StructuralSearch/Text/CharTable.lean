/-!
# Character tables

A property of characters is a list of closed code point ranges, and a case map is a list of
runs: every `step`-th code point from `first` to `last` moves by `shift`.  Both are looked up
by scanning, so that membership unfolds to plain inequalities.
-/

namespace StructuralSearch.Text

/-- A property of characters, as closed ranges of code points. -/
abbrev CharRanges := List (Nat × Nat)

/-- Whether the code point of `c` lies in one of the ranges. -/
def CharRanges.holds (ranges : CharRanges) (c : Char) : Bool :=
  ranges.any fun range => range.1 ≤ c.toNat && c.toNat ≤ range.2

/-- Every `step`-th code point from `first` to `last` is moved by `shift`. -/
structure CaseRun where
  first : Nat
  last : Nat
  step : Nat
  shift : Int

/-- Whether the run moves the code point `n`. -/
def CaseRun.moves (run : CaseRun) (n : Nat) : Bool :=
  run.first ≤ n && n ≤ run.last && (n - run.first) % run.step == 0

/-- The image of `c` under a case map; characters of no run stay as they are. -/
def applyRuns (runs : List CaseRun) (c : Char) : Char :=
  match runs.find? (·.moves c.toNat) with
  | some run => Char.ofNat ((c.toNat : Int) + run.shift).toNat
  | none => c

/-- An empty case map moves nothing. -/
theorem applyRuns_nil (c : Char) : applyRuns [] c = c := rfl

/-- A property holds of a character exactly when one of its ranges contains the code point. -/
theorem CharRanges.holds_iff (ranges : CharRanges) (c : Char) :
    ranges.holds c = true ↔ ∃ range ∈ ranges, range.1 ≤ c.toNat ∧ c.toNat ≤ range.2 := by
  simp [CharRanges.holds]

end StructuralSearch.Text
