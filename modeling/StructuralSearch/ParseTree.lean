import StructuralSearch.Span

/-!
# Parse trees

A parse tree is what a parser hands over: every token is a node, comments included, and a text that
is not valid still has a tree, in which error nodes and missing nodes mark what is wrong.  Rows and
columns count from zero here; spans count from one.

`ParseTree.firstFault?` finds the first fault in document order and enters only those subtrees
which announce one.
-/

namespace StructuralSearch

/-- A zero-based place as a parser reports it; columns and offsets count bytes. -/
structure TreePoint where
  offset : Nat
  row : Nat
  column : Nat
  deriving DecidableEq, Repr

/-- The one-based position of a place. -/
def TreePoint.position (point : TreePoint) : Position where
  line := clampPosition (point.row + 1)
  column := clampPosition (point.column + 1)
  offset := clampPosition point.offset

/-- A node of a parse tree with everything below it. -/
structure ParseTree where
  kind : String
  /-- whether the grammar names this kind of node; tokens have no name -/
  named : Bool
  /-- whether the node may stand anywhere, as a comment does -/
  extra : Bool
  isError : Bool
  isMissing : Bool
  /-- whether there is an error node or a missing node here or below -/
  hasError : Bool
  /-- the field of the parent in which the node stands -/
  field : Option String
  start : TreePoint
  stop : TreePoint
  children : List ParseTree
  deriving Repr

namespace ParseTree

/-- The span of a tree. -/
def span (tree : ParseTree) : Span :=
  ⟨tree.start.position, tree.stop.position⟩

mutual

/-- The first error node or missing node, each node before its children. -/
def firstFault? : ParseTree → Option ParseTree
  | ⟨kind, named, extra, isError, isMissing, hasError, field, start, stop, children⟩ =>
    if isError || isMissing then
      some ⟨kind, named, extra, isError, isMissing, hasError, field, start, stop, children⟩
    else if hasError then firstFaultIn? children
    else none

/-- The first fault in a list of trees. -/
def firstFaultIn? : List ParseTree → Option ParseTree
  | [] => none
  | tree :: trees => (firstFault? tree).or (firstFaultIn? trees)

end

/-- The fault in words, with its one-based place. -/
def faultMessage (tree : ParseTree) : String :=
  let start := tree.start.position
  let stop := tree.stop.position
  if tree.isMissing then s!"Parse error at {start.line}:{start.column}: missing {tree.kind}"
  else s!"Parse error at {start.line}:{start.column}-{stop.line}:{stop.column}"

end ParseTree

end StructuralSearch
