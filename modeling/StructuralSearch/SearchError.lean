import StructuralSearch.Text.Quoted

/-!
# Search errors

The causes for which a text cannot be parsed, a query cannot be compiled, or a file cannot be
searched, and the wording of each.
-/

namespace StructuralSearch

/-- Why a query or a file could not be used. -/
inductive SearchError
  /-- the text is not valid in its language; the place is one-based -/
  | parse (line column : Nat) (message : String)
  /-- the query holds no statement that could be compared -/
  | emptyQuery
  /-- a file node lacks fields that the query node compares -/
  | fieldsMissing (fileKind queryKind : String) (fileKeys queryKeys : List String)
  /-- the file could not be read -/
  | unreadable (path reason : String)
  /-- the text query was not compiled -/
  | invalidTextQuery (reason : String)
  deriving DecidableEq, Repr

namespace SearchError

/-- The wording of an error. -/
def message : SearchError → String
  | parse _ _ message => message
  | emptyQuery => "query is empty"
  | fieldsMissing fileKind queryKind fileKeys queryKeys =>
    s!"validator invariant violated comparing {fileKind} with {queryKind}: file keys "
      ++ Text.quotedList fileKeys ++ " do not line up with query keys " ++ Text.quotedList queryKeys
  | unreadable path reason => s!"failed to read {path}: {reason}"
  | invalidTextQuery reason => s!"invalid text query: {reason}"

/-- The place of an error, if it has one. -/
def location? : SearchError → Option (Nat × Nat)
  | parse line column _ => some (line, column)
  | _ => none

end SearchError

end StructuralSearch
