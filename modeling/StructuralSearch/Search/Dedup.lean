import StructuralSearch.Match

/-!
# One match for each stretch

Of the matches of one file that cover the same bytes the first one is kept.  The others are ordered
by their start, and of those with one start the longest comes first, so that a match precedes the
matches nested in it.
-/

namespace StructuralSearch

/-- The byte offsets between which a match lies. -/
def Match.range (found : Match) : Nat × Nat :=
  (found.start.offset, found.stop.offset)

/-- Whether `a` may stand before `b`: it starts earlier, or at the same place and ends no earlier.
-/
def Match.precedes (a b : Match) : Bool :=
  a.start.offset < b.start.offset
    || (a.start.offset == b.start.offset && b.stop.offset ≤ a.stop.offset)

/-- The matches whose range is neither among `seen` nor that of an earlier match. -/
def firstOfEachRange (seen : List (Nat × Nat)) : List Match → List Match
  | [] => []
  | found :: matching =>
    if found.range ∈ seen then firstOfEachRange seen matching
    else found :: firstOfEachRange (found.range :: seen) matching

/-- One match for each range, in order. -/
def dedup (matching : List Match) : List Match :=
  (firstOfEachRange [] matching).mergeSort Match.precedes

/-- No match is made up. -/
theorem firstOfEachRange_subset (seen : List (Nat × Nat)) (matching : List Match) :
    firstOfEachRange seen matching ⊆ matching := by
  induction matching generalizing seen with
  | nil => exact List.Subset.refl _
  | cons found matching ih =>
      rw [firstOfEachRange]
      split
      · exact List.subset_cons_of_subset _ (ih seen)
      · exact List.cons_subset_cons _ (ih _)

/-- Neither is one when the matches are ordered. -/
theorem dedup_subset (matching : List Match) : dedup matching ⊆ matching := by
  intro found hfound
  exact firstOfEachRange_subset [] matching (List.mem_mergeSort.mp hfound)

end StructuralSearch
