import StructuralSearch.Language

/-!
# Search settings
-/

namespace StructuralSearch

/-- The options of a search. -/
structure Settings where
  mode : Mode := .includeAny
  caseInsensitive : Bool := false
  /-- stop after the first file with results or with an error -/
  debug : Bool := false
  /-- the number of matches to keep, if there is a limit -/
  maxResults : Option Nat := some 10000
  language : Language := .typescript
  deriving DecidableEq, Repr

end StructuralSearch
