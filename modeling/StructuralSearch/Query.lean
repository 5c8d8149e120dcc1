import StructuralSearch.Diagnostic
import StructuralSearch.Grammar
import StructuralSearch.Profile.Wildcards

/-!
# Queries

A query is written in the language it searches.  Its markers give way to placeholders, it is parsed,
and the markers are put back into the texts of its nodes.  A single statement is compared with every
node that could match it; several statements are compared with the bodies of programs and blocks.

A list of queries is compiled as a whole: `compileAll` reports every query that fails.
-/

namespace StructuralSearch

/-- What a query is compared with. -/
inductive QueryTarget
  /-- the query is one node -/
  | node (node : Node)
  /-- the query is a block of statements -/
  | statements (block : Node)
  deriving Repr

/-- A query that was compiled. -/
structure Query where
  /-- the place of the query among those given -/
  index : Nat
  text : String
  target : QueryTarget
  hints : List Hint
  deriving Repr

/-- The outcome of compiling a list of queries; there are hints for each query, none where it
failed. -/
structure QueryBatch where
  queries : List Query := []
  errors : List ErrorRecord := []
  hints : List (List Hint) := []
  deriving Repr

namespace Query

/-- The target of a query of a single statement.  A whole-node wildcard keeps its wrapper, so that
it matches statements and not every node below them. -/
def targetOfStatement (profile : Profile) (statement : Node) : Node :=
  let inner := profile.unwrapStatement statement
  if (profile.nodeWildcard? inner).isSome then statement else inner

/-- The hints on a query of a single statement. -/
def hintsOfStatement (profile : Profile) (statement : Node) : List Hint :=
  if profile.identifierName? (profile.unwrapStatement statement) = some Marker.identifier.text then
    [.identifierWildcardOnly]
  else []

/-- The target of a query and the hints on it, from its comparable statements. -/
def selectTarget (profile : Profile) : List Node → Except SearchError (QueryTarget × List Hint)
  | [] => .error .emptyQuery
  | [statement] =>
    .ok (.node (targetOfStatement profile statement), hintsOfStatement profile statement)
  | first :: second :: others =>
    let statements := first :: second :: others
    let last := (second :: others).getLast (by simp)
    .ok (.statements (profile.blockOf statements ⟨first.span.start, last.span.stop⟩),
      [.multipleStatements statements.length])

/-- Compiles one query. -/
def compile (grammar : Grammar) (index : Nat) (text : String) : Except SearchError Query :=
  if Text.isBlankText text then .error .emptyQuery
  else do
    let root ← grammar.parse (grammar.profile.encodeQuery text)
    let decoded := root.mapText grammar.profile.decodeText
    let statements := (grammar.profile.body decoded).filter grammar.profile.isComparable
    let (target, hints) ← selectTarget grammar.profile statements
    return { index, text, target, hints }

/-- The record of a query that failed. -/
def errorRecord (index : Nat) (error : SearchError) : ErrorRecord :=
  .query index error.message (error.location?.map (·.1)) (error.location?.map (·.2))

/-- Adds the outcome of one more query. -/
def addOutcome (batch : QueryBatch) (index : Nat) : Except SearchError Query → QueryBatch
  | .ok query =>
    { batch with queries := batch.queries ++ [query], hints := batch.hints ++ [query.hints] }
  | .error error =>
    { batch with
      errors := batch.errors ++ [errorRecord index error], hints := batch.hints ++ [[]] }

/-- Compiles a list of queries. -/
def compileAll (grammar : Grammar) (texts : List String) : QueryBatch :=
  texts.zipIdx.foldl (fun batch (text, index) =>
    addOutcome batch index (compile grammar index text)) {}

end Query

/-- Whether every query compiled. -/
def QueryBatch.isOk (batch : QueryBatch) : Bool :=
  batch.errors.isEmpty

end StructuralSearch
