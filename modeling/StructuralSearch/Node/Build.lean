import StructuralSearch.Node.Layout
import StructuralSearch.ParseTree
import StructuralSearch.Profile.Basic
import StructuralSearch.Text.Utf8

/-!
# From parse trees to nodes

A parse tree becomes a node by the layout of its kind.

* Every field that the kind declares is there, even if nothing stands in it.
* Extras and the kinds that the profile skips are dropped.
* A token in a single field becomes the value of the field, and one in a sequence a nameless node;
  named children without a field are collected under `children`.
* Of the tokens without a field only the words and the star are kept, as the `keywords` of the node.
* The text is kept for leaves and for the kinds whose text matters; a node of tokens alone has
  their kinds as its text.
-/

namespace StructuralSearch

/-- What is needed to turn the parse trees of one source text into nodes. -/
structure TreeBuilder where
  profile : Profile
  layout : Layout
  source : String

namespace TreeBuilder

/-- Whether a token is a word, or the star that marks a generator. -/
def isKeyword (kind : String) : Bool :=
  kind == "*" || (!kind.isEmpty && kind.toList.all fun c => c.isAlpha || c == '_')

/-- The keywords among a node's children.  A token in a field counts as an operator in front of its
operand when no named child precedes it and one follows it. -/
def keywords (seenNamed : Bool) : List ParseTree → List String
  | [] => []
  | tree :: trees =>
    if tree.extra then keywords seenNamed trees
    else if tree.named then keywords true trees
    else
      match tree.field with
      | none =>
        if isKeyword tree.kind then tree.kind :: keywords seenNamed trees
        else keywords seenNamed trees
      | some _ =>
        if !seenNamed && trees.any (·.named) then Node.operatorFirst :: keywords seenNamed trees
        else keywords seenNamed trees

/-- The fields of a kind before anything stands in them. -/
def emptyFields (layout : KindLayout) (node : Node) : Node :=
  let withSingle := layout.single.foldl (fun node name => node.setField name (.child none)) node
  let withMultiple :=
    layout.multiple.foldl (fun node name => node.setField name (.sequence [])) withSingle
  if layout.hasChildren then withMultiple.setField Node.childrenField (.sequence [])
  else withMultiple

variable (builder : TreeBuilder)

/-- The source text under a tree. -/
def rawText (tree : ParseTree) : String :=
  Text.sliceBytes tree.start.offset tree.stop.offset builder.source

/-- The value that a child gives to a single field. -/
def singleValue (tree : ParseTree) (built : Node) : FieldValue Node :=
  if tree.named then .child (some built) else .token (builder.rawText tree)

/-- The element that a child gives to a sequence field. -/
def sequenceElement (tree : ParseTree) (built : Node) : Node :=
  if tree.named then built else Node.ofToken tree.kind (builder.rawText tree) tree.span

/-- Puts a named child that stands in no declared field under `children`. -/
def attachUnfielded (layout : KindLayout) (node : Node) (tree : ParseTree) (built : Node) : Node :=
  if tree.named && layout.hasChildren then node.pushTo Node.childrenField built else node

/-- Puts a child, given with its own node, into the field where it belongs. -/
def attach (layout : KindLayout) (node : Node) (child : ParseTree × Node) : Node :=
  let (tree, built) := child
  if tree.extra || builder.profile.skippedKinds.contains tree.kind then node
  else
    match tree.field with
    | some name =>
      if layout.single.contains name then node.setField name (builder.singleValue tree built)
      else if layout.multiple.contains name then
        node.pushTo name (builder.sequenceElement tree built)
      else attachUnfielded layout node tree built
    | none => attachUnfielded layout node tree built

/-- The text that a node keeps. -/
def nodeText (tree : ParseTree) : Option String :=
  let visible := tree.children.filter (!·.extra)
  if tree.children.isEmpty || builder.profile.keepsText tree.kind then
    some (builder.profile.sanitize tree.kind (builder.rawText tree))
  else if visible.all (!·.named) then some (" ".intercalate (visible.map (·.kind)))
  else none

/-- The fields of a tree whose children are given with their own nodes. -/
def fill (tree : ParseTree) (built : List (ParseTree × Node)) : Node :=
  let bare : Node := { kind := tree.kind, span := tree.span }
  match builder.layout.kind? tree.kind with
  | some layout => built.foldl (builder.attach layout) (emptyFields layout bare)
  | none => bare

/-- A node with its keywords, if there are any. -/
def addKeywords (node : Node) : List String → Node
  | [] => node
  | words => node.setField Node.keywordsField (.token (" ".intercalate words))

/-- The node of a tree whose children are given with their own nodes. -/
def assemble (tree : ParseTree) (built : List (ParseTree × Node)) : Node :=
  addKeywords { builder.fill tree built with text := builder.nodeText tree }
    (keywords false tree.children)

/-- The only named child of a tree whose kind gives way to it. -/
def replacement? (kind : String) (built : List (ParseTree × Node)) : Option Node :=
  if builder.profile.transparentKinds.contains kind then
    match built.filter (·.1.named) with
    | [(_, node)] => some node
    | _ => none
  else none

mutual

/-- The node of a parse tree. -/
def build : ParseTree → Node
  | ⟨kind, named, extra, isError, isMissing, hasError, field, start, stop, children⟩ =>
    let built := buildAll children
    (builder.replacement? kind built).getD
      (builder.assemble
        ⟨kind, named, extra, isError, isMissing, hasError, field, start, stop, children⟩ built)

/-- The trees of a list, each with its node. -/
def buildAll : List ParseTree → List (ParseTree × Node)
  | [] => []
  | tree :: trees => (tree, build tree) :: buildAll trees

end

/-- Building a list builds its elements. -/
theorem buildAll_eq_map (trees : List ParseTree) :
    builder.buildAll trees = trees.map fun tree => (tree, builder.build tree) := by
  induction trees with
  | nil => rfl
  | cons tree trees ih => simp [buildAll, ih]

end TreeBuilder

end StructuralSearch
