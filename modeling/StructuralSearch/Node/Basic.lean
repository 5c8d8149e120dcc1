import StructuralSearch.Span

/-!
# Nodes

A node is a piece of syntax in a shape that is the same for all languages: a kind, a span, perhaps
a text, and named fields.  A field holds a bare token, a single child that may be absent, or a
sequence.  The fields of a node are kept in the order of their names, and no name occurs twice;
`Node.setField` keeps both.

`Node.walk` lists a node and everything below it, each node before its children.
-/

namespace StructuralSearch

/-- What a field holds, for nodes of type `α`. -/
inductive FieldValue (α : Type) where
  /-- a bare token, such as an operator -/
  | token (text : String)
  /-- a single child, if it is present -/
  | child (node : Option α)
  /-- any number of children -/
  | sequence (nodes : List α)
  deriving Repr

namespace FieldValue

variable {α : Type}

/-- Whether the field holds nothing. -/
def isEmpty : FieldValue α → Bool
  | token _ => false
  | child node => node.isNone
  | sequence nodes => nodes.isEmpty

/-- The nodes in the field. -/
def nodes : FieldValue α → List α
  | token _ => []
  | child node => node.toList
  | sequence nodes => nodes

end FieldValue

/-- A piece of syntax. -/
structure Node where
  kind : String
  span : Span
  /-- whether the grammar names this kind of node -/
  named : Bool := true
  text : Option String := none
  fields : List (String × FieldValue Node) := []
  deriving Repr

namespace Node

/-- The field for children that the grammar does not name. -/
def childrenField : String := "children"

/-- The field for the keywords among the tokens of a node. -/
def keywordsField : String := "keywords"

/-- The keyword that marks an operator in front of its operand. -/
def operatorFirst : String := "prefix"

/-- A token as an element of a sequence. -/
def ofToken (kind text : String) (span : Span) : Node :=
  { kind, span, named := false, text := some text }

/-- The value of a field. -/
def field? (node : Node) (name : String) : Option (FieldValue Node) :=
  node.fields.lookup name

/-- The elements of a sequence field; none if there is no such sequence. -/
def sequence (node : Node) (name : String) : List Node :=
  match node.field? name with
  | some (.sequence nodes) => nodes
  | _ => []

/-- The children of a node in the order of its fields. -/
def children (node : Node) : List Node :=
  node.fields.flatMap fun (_, value) => value.nodes

/-- Puts a value under a name into a list that is ordered by name. -/
def insertField (name : String) (value : FieldValue Node) :
    List (String × FieldValue Node) → List (String × FieldValue Node)
  | [] => [(name, value)]
  | (other, held) :: fields =>
    if name < other then (name, value) :: (other, held) :: fields
    else if name = other then (name, value) :: fields
    else (other, held) :: insertField name value fields

/-- Sets a field, whether the node has it already or not. -/
def setField (node : Node) (name : String) (value : FieldValue Node) : Node :=
  { node with fields := insertField name value node.fields }

/-- Adds an element to a sequence field; a node without that sequence stays as it is. -/
def pushTo (node : Node) (name : String) (element : Node) : Node :=
  match node.field? name with
  | some (.sequence nodes) => node.setField name (.sequence (nodes ++ [element]))
  | _ => node

mutual

/-- A node and all nodes below it, each before its children. -/
def walk : Node → List Node
  | ⟨kind, span, named, text, fields⟩ => ⟨kind, span, named, text, fields⟩ :: walkFields fields

/-- All nodes in a list of fields. -/
def walkFields : List (String × FieldValue Node) → List Node
  | [] => []
  | (_, value) :: fields => walkValue value ++ walkFields fields

/-- All nodes in a field. -/
def walkValue : FieldValue Node → List Node
  | .token _ => []
  | .child none => []
  | .child (some node) => walk node
  | .sequence nodes => walkAll nodes

/-- All nodes in a list of nodes. -/
def walkAll : List Node → List Node
  | [] => []
  | node :: nodes => walk node ++ walkAll nodes

end

mutual

/-- Applies `f` to the text of a node and to the texts of all nodes below it. -/
def mapText (f : String → String) : Node → Node
  | ⟨kind, span, named, text, fields⟩ => ⟨kind, span, named, text.map f, mapTextFields f fields⟩

/-- Applies `f` to all texts in a list of fields. -/
def mapTextFields (f : String → String) :
    List (String × FieldValue Node) → List (String × FieldValue Node)
  | [] => []
  | (name, value) :: fields => (name, mapTextValue f value) :: mapTextFields f fields

/-- Applies `f` to all texts in a field. -/
def mapTextValue (f : String → String) : FieldValue Node → FieldValue Node
  | .token text => .token text
  | .child none => .child none
  | .child (some node) => .child (some (mapText f node))
  | .sequence nodes => .sequence (mapTextAll f nodes)

/-- Applies `f` to all texts in a list of nodes. -/
def mapTextAll (f : String → String) : List Node → List Node
  | [] => []
  | node :: nodes => mapText f node :: mapTextAll f nodes

end

/-- Walking a list of nodes walks each of them in turn. -/
theorem walkAll_eq_flatMap (nodes : List Node) : walkAll nodes = nodes.flatMap walk := by
  induction nodes with
  | nil => rfl
  | cons node nodes ih => simp [walkAll, ih]

/-- Walking a field walks its nodes. -/
theorem walkValue_eq_flatMap (value : FieldValue Node) :
    walkValue value = value.nodes.flatMap walk := by
  rcases value with text | (_ | node) | nodes
  · rfl
  · rfl
  · simp [walkValue, FieldValue.nodes]
  · simp [walkValue, FieldValue.nodes, walkAll_eq_flatMap]

/-- A walk visits the node first and then walks its children. -/
theorem walk_eq (node : Node) : node.walk = node :: node.children.flatMap walk := by
  obtain ⟨kind, span, named, text, fields⟩ := node
  have inner : walkFields fields = fields.flatMap fun (_, value) => walkValue value := by
    induction fields with
    | nil => rfl
    | cons field fields ih => simp [walkFields, ih]
  simp only [walk, children, inner, walkValue_eq_flatMap, List.flatMap_assoc]

/-- Mapping the texts of a list maps the texts of its elements. -/
theorem mapTextAll_eq_map (f : String → String) (nodes : List Node) :
    mapTextAll f nodes = nodes.map (mapText f) := by
  induction nodes with
  | nil => rfl
  | cons node nodes ih => simp [mapTextAll, ih]

/-- Changing texts leaves kinds alone. -/
@[simp] theorem kind_mapText (f : String → String) (node : Node) :
    (node.mapText f).kind = node.kind := by
  cases node; rfl

/-- Changing texts leaves spans alone. -/
@[simp] theorem span_mapText (f : String → String) (node : Node) :
    (node.mapText f).span = node.span := by
  cases node; rfl

end Node

end StructuralSearch
