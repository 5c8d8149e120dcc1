import StructuralSearch.Profile.Wildcards
import StructuralSearch.SearchError
import StructuralSearch.Settings

/-!
# Matching

Whether a file node matches a query node depends on the criteria of the match: the language, the
mode, and whether letter case counts.  A match is decided by a computation that may fail and that
keeps a tally: how many pairs of nodes were compared so far, and how deep the current pair lies.
-/

namespace StructuralSearch

/-- What decides whether two nodes match. -/
structure Criteria where
  profile : Profile
  mode : Mode
  caseInsensitive : Bool
  deriving Repr

/-- The text as it is compared. -/
def Criteria.fold (criteria : Criteria) (text : String) : String :=
  if criteria.caseInsensitive then Text.lowercase text else text

/-- The counters of a sequence of matches. -/
structure Tally where
  comparisons : Nat := 0
  depth : Nat := 0
  deriving DecidableEq, Repr

/-- A computation that keeps a tally and may fail; the tally survives a failure. -/
abbrev Matching (α : Type) := ExceptT SearchError (StateM Tally) α

namespace Matching

/-- Counts one comparison. -/
def count : Matching Unit :=
  modify fun tally => { tally with comparisons := tally.comparisons + 1 }

/-- Runs a computation one level deeper and comes back, also when it fails. -/
def deeper {α : Type} (inner : Matching α) : Matching α := fun tally =>
  let (outcome, after) := inner { tally with depth := tally.depth + 1 }
  (outcome, { after with depth := after.depth - 1 })

end Matching

end StructuralSearch
