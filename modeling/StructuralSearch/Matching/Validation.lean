import StructuralSearch.Matching.Comparison
import StructuralSearch.Matching.Sequence

/-!
# Matching trees and sequences of nodes

`Criteria.validate` decides whether a query node and everything below it match a file node.  It
follows the query: the two nodes are compared at their level, and then the fields that the query
compares, one after the other.  Sequences are globbed in exact mode and claimed in the include
modes, once the elements that take no part in comparisons are left out on both sides.

`Criteria.matchStatements` matches the statements of a query against the body of a program or of a
block and returns the span of each match.
-/

namespace StructuralSearch

namespace Criteria

variable (criteria : Criteria)

/-- The strength of an element of a query sequence. -/
def strengthOf (query : Node) : Strength :=
  if (criteria.profile.elementWildcard? query).isSome then { level := 2 }
  else
    match criteria.profile.identifierName? query.innermost with
    | some name =>
      if hasWildcard name then { level := 1, fixed := fixedLength name } else { level := 0 }
    | none => { level := 0 }

/-- A query node as a wanted element, given how it decides on file nodes. -/
def wantedOf (query : Node) (validate : Node → Matching Bool) : Wanted Matching Node :=
  let wildcard := criteria.profile.elementWildcard? query
  { wildcard
    strength := criteria.strengthOf query
    accepts := fun file => if wildcard = some .single then return true else validate file }

/-- Matches wanted elements against a file sequence as the mode asks. -/
def matchSequence (query : List (Wanted Matching Node)) (file : List Node) : Matching Bool := do
  let comparable := file.filter criteria.profile.isComparable
  if criteria.mode = .exact then Sequence.glob query comparable
  else return (← Sequence.claim (criteria.mode == .includeOrdered) query comparable).isSome

mutual

/-- Whether a query node and everything below it match a file node. -/
def validate : Node → Node → Matching Bool
  | ⟨kind, span, named, text, fields⟩, file => do
    match ← criteria.compareNodes file ⟨kind, span, named, text, fields⟩ with
    | .mismatch => return false
    | .settled => return true
    | .pending fileKeys queryKeys =>
      if fileKeys.length = queryKeys.length then Matching.deeper (validateFields fields file)
      else throw (.fieldsMissing file.kind kind fileKeys queryKeys)

/-- Whether the compared fields of a query match the fields of a file node, one after the other. -/
def validateFields : List (String × FieldValue Node) → Node → Matching Bool
  | [], _ => return true
  | (name, value) :: fields, file => do
    if criteria.isCompared value then
      match file.field? name with
      | some actual =>
        if ← validateValue value actual then validateFields fields file
        else return false
      | none => return false
    else validateFields fields file

/-- Whether the value of a query field matches the value of a file field. -/
def validateValue : FieldValue Node → FieldValue Node → Matching Bool
  | .child (some query), .child (some file) => validate query file
  | .child none, .child none => return true
  | .sequence query, .sequence file => criteria.matchSequence (wantedAll query) file
  | .token wanted, .token actual => return actual == wanted
  | _, _ => return false

/-- The comparable nodes of a query sequence as wanted elements. -/
def wantedAll : List Node → List (Wanted Matching Node)
  | [] => []
  | query :: queries =>
    if criteria.profile.isComparable query then
      criteria.wantedOf query (validate query) :: wantedAll queries
    else wantedAll queries

end

/-- Whether a query sequence matches a file sequence. -/
def validateSequence (query file : List Node) : Matching Bool :=
  criteria.matchSequence (criteria.wantedAll query) file

/-- The span from the first to the last node of a list. -/
def coverOf? (nodes : List Node) : Option Span :=
  match nodes.head?, nodes.getLast? with
  | some first, some last => some (first.span.cover last.span)
  | _, _ => none

/-- The span from the first to the last of the elements at the given places. -/
def coverOfPlaces? (file : List Node) (places : List Nat) : Option Span := do
  let first ← file[← places.min?]?
  let last ← file[← places.max?]?
  return first.span.cover last.span

/-- The spans of the matches of query statements in the body of a program or of a block: in exact
mode the shortest window from each statement on, and in the include modes at most one stretch, from
the first claimed statement to the last. -/
def matchStatements (query body : List Node) : Matching (List Span) := do
  let comparable := body.filter criteria.profile.isComparable
  let wanted := criteria.wantedAll query
  if criteria.mode = .exact then
    let windows ← Sequence.shortestWindows (Sequence.glob wanted) comparable
    return windows.filterMap coverOf?
  else
    match ← Sequence.claim (criteria.mode == .includeOrdered) wanted comparable with
    | some places => return (coverOfPlaces? comparable places).toList
    | none => return []

/-- The wanted elements of a query sequence are its comparable nodes. -/
theorem wantedAll_eq_map (queries : List Node) :
    criteria.wantedAll queries =
      (queries.filter criteria.profile.isComparable).map fun query =>
        criteria.wantedOf query (criteria.validate query) := by
  induction queries with
  | nil => rfl
  | cons query queries ih =>
    by_cases h : criteria.profile.isComparable query = true
    · simp [wantedAll, h, ih]
    · simp [wantedAll, h, ih]

end Criteria

end StructuralSearch
