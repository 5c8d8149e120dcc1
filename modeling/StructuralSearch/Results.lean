import StructuralSearch.Diagnostic
import StructuralSearch.Match

/-!
# Search results
-/

namespace StructuralSearch

/-- What a search found, what went wrong, and the hints for each query. -/
structure Results where
  found : List Match := []
  errors : List ErrorRecord := []
  hints : List (List Hint) := []
  deriving DecidableEq, Repr

namespace Results

/-- The results of a search whose queries failed. -/
def ofErrors (errors : List ErrorRecord) (hints : List (List Hint)) : Results :=
  ⟨[], errors, hints⟩

/-- Whether anything went wrong. -/
def hasErrors (results : Results) : Bool :=
  !results.errors.isEmpty

end Results

end StructuralSearch
