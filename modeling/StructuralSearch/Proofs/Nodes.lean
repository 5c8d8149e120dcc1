import Mathlib.Data.List.Basic
import Mathlib.Data.String.Basic
import StructuralSearch.Node.Build

/-!
# Trees of nodes

Facts about nodes that hold whatever the language is.

Everything about a whole tree is proved by `Node.induction_on_children`: a property holds of every
node once it passes from the children of a node to the node.  `Node.Everywhere` says that a
property holds of a node and of all nodes below it; it is what the invariants of built trees are
stated with.  The rest are the laws of fields: what `setField` changes, and that a change of texts
moves none of the nodes.
-/

namespace StructuralSearch

namespace Node

/-- The nodes in a field are smaller than the field. -/
theorem sizeOf_lt_of_mem_nodes {child : Node} {value : FieldValue Node}
    (h : child ∈ value.nodes) : sizeOf child < sizeOf value := by
  rcases value with text | (_ | node) | nodes
  · simp [FieldValue.nodes] at h
  · simp [FieldValue.nodes] at h
  · obtain rfl : child = node := by simpa [FieldValue.nodes] using h
    simp +arith
  · have hlt := List.sizeOf_lt_of_mem (show child ∈ nodes from h)
    simp +arith
    omega

/-- A child is a node in one of the fields. -/
theorem mem_children_iff {child node : Node} :
    child ∈ node.children ↔ ∃ name value, (name, value) ∈ node.fields ∧ child ∈ value.nodes := by
  simp [children]

/-- The children of a node are smaller than the node. -/
theorem sizeOf_lt_of_mem_children {child node : Node} (h : child ∈ node.children) :
    sizeOf child < sizeOf node := by
  obtain ⟨name, value, hentry, hchild⟩ := mem_children_iff.mp h
  have hvalue := sizeOf_lt_of_mem_nodes hchild
  have hfields := List.sizeOf_lt_of_mem hentry
  obtain ⟨kind, span, named, text, fields⟩ := node
  simp +arith at hfields ⊢
  omega

/-- **Induction on trees.**  What passes from the children of a node to the node holds of every
node. -/
theorem induction_on_children {motive : Node → Prop} (node : Node)
    (step : ∀ node, (∀ child ∈ node.children, motive child) → motive node) : motive node :=
  step node fun child _hchild => induction_on_children child step
termination_by sizeOf node
decreasing_by exact sizeOf_lt_of_mem_children _hchild

/-- A field that is looked up is one of the fields. -/
theorem mem_fields_of_field? {node : Node} {name : String} {value : FieldValue Node}
    (h : node.field? name = some value) : (name, value) ∈ node.fields := by
  unfold field? at h
  obtain ⟨before, after, hfields, -⟩ := List.lookup_eq_some_iff.mp h
  simp [hfields]

/-- The nodes in a field that is looked up are children. -/
theorem mem_children_of_field? {node child : Node} {name : String} {value : FieldValue Node}
    (h : node.field? name = some value) (hchild : child ∈ value.nodes) : child ∈ node.children :=
  mem_children_iff.mpr ⟨name, value, mem_fields_of_field? h, hchild⟩

/-! ### Walks -/

/-- A walk begins with its node. -/
theorem mem_walk_self (node : Node) : node ∈ node.walk := by
  rw [walk_eq]
  exact List.mem_cons_self

/-- A walk visits the node and what the walks of its children visit. -/
theorem mem_walk_iff {visited node : Node} :
    visited ∈ node.walk ↔ visited = node ∨ ∃ child ∈ node.children, visited ∈ child.walk := by
  rw [walk_eq]
  simp

/-- A child is visited. -/
theorem mem_walk_of_mem_children {child node : Node} (h : child ∈ node.children) :
    child ∈ node.walk :=
  mem_walk_iff.mpr (Or.inr ⟨child, h, mem_walk_self child⟩)

/-- What is visited from a visited node is visited. -/
theorem mem_walk_trans {a b c : Node} (hab : a ∈ b.walk) (hbc : b ∈ c.walk) : a ∈ c.walk := by
  induction c using induction_on_children with
  | step c ih =>
      rcases mem_walk_iff.mp hbc with rfl | ⟨child, hchild, hb⟩
      · exact hab
      · exact mem_walk_iff.mpr (Or.inr ⟨child, hchild, ih child hchild hb⟩)

/-- The elements of a sequence in a field are visited. -/
theorem mem_walk_of_mem_sequence {node element : Node} {name : String}
    (h : element ∈ node.sequence name) : element ∈ node.walk := by
  unfold sequence at h
  split at h
  · rename_i nodes hfield
    exact mem_walk_of_mem_children (mem_children_of_field? hfield h)
  · simp at h

/-- Elements of a sequence stand in a sequence field. -/
theorem field?_of_sequence {node : Node} {name : String} (h : node.sequence name ≠ []) :
    node.field? name = some (.sequence (node.sequence name)) := by
  unfold sequence at h ⊢
  split at h
  · rename_i nodes hfield
    rw [hfield]
  · exact absurd rfl h

/-- A property holds of a node and of all nodes below it. -/
def Everywhere (P : Node → Prop) (node : Node) : Prop :=
  ∀ visited ∈ node.walk, P visited

instance decidableEverywhere (P : Node → Prop) [DecidablePred P] (node : Node) :
    Decidable (node.Everywhere P) :=
  inferInstanceAs (Decidable (∀ visited ∈ node.walk, P visited))

/-- A property that holds everywhere may be weakened. -/
theorem Everywhere.mono {P Q : Node → Prop} {node : Node} (h : node.Everywhere P)
    (himp : ∀ inner, P inner → Q inner) : node.Everywhere Q :=
  fun inner hinner => himp inner (h inner hinner)

/-- What holds everywhere in a tree holds of its root. -/
theorem Everywhere.self {P : Node → Prop} {node : Node} (h : node.Everywhere P) : P node :=
  h node (mem_walk_self node)

/-- What holds everywhere in a tree holds everywhere below a child. -/
theorem Everywhere.child {P : Node → Prop} {node child : Node} (h : node.Everywhere P)
    (hchild : child ∈ node.children) : child.Everywhere P := by
  intro visited hvisited
  exact h visited (mem_walk_iff.mpr (Or.inr ⟨child, hchild, hvisited⟩))

/-- What holds everywhere in a tree holds everywhere below each of its nodes. -/
theorem Everywhere.visited {P : Node → Prop} {node visited : Node} (h : node.Everywhere P)
    (hvisited : visited ∈ node.walk) : visited.Everywhere P :=
  fun _ hlower => h _ (mem_walk_trans hlower hvisited)

/-- A property of the root and of the trees below its children holds everywhere. -/
theorem everywhere_of_children {P : Node → Prop} {node : Node} (hself : P node)
    (hchildren : ∀ child ∈ node.children, child.Everywhere P) : node.Everywhere P := by
  intro visited hvisited
  rcases mem_walk_iff.mp hvisited with rfl | ⟨child, hchild, hlower⟩
  · exact hself
  · exact hchildren child hchild visited hlower

/-! ### Fields that are set -/

/-- Setting a field changes this field and no other. -/
theorem field?_setField (node : Node) (name other : String) (value : FieldValue Node) :
    (node.setField name value).field? other =
      if other = name then some value else node.field? other := by
  simp only [field?, setField]
  induction node.fields with
  | nil => grind [insertField]
  | cons entry fields ih =>
      obtain ⟨first, held⟩ := entry
      grind [insertField]

/-- The fields after one was set are that field and fields that were there before. -/
theorem mem_fields_setField {node : Node} {name : String} {value : FieldValue Node}
    {entry : String × FieldValue Node} (h : entry ∈ (node.setField name value).fields) :
    entry = (name, value) ∨ entry ∈ node.fields := by
  obtain ⟨kind, span, named, text, fields⟩ := node
  simp only [setField] at h ⊢
  induction fields with
  | nil => simpa [insertField] using h
  | cons first fields ih =>
      simp only [insertField] at h
      split at h
      · simpa using h
      · split at h
        · rcases List.mem_cons.mp h with rfl | htail
          · exact Or.inl rfl
          · exact Or.inr (List.mem_cons_of_mem _ htail)
        · rcases List.mem_cons.mp h with rfl | htail
          · exact Or.inr List.mem_cons_self
          · exact (ih htail).imp_right (List.mem_cons_of_mem _)

/-- The fields stand in the order of their names, and no name occurs twice. -/
def FieldsInOrder (node : Node) : Prop :=
  node.fields.Pairwise fun a b => a.1 < b.1

/-- Where no name occurs twice, each field is found under its name. -/
theorem FieldsInOrder.field?_of_mem {node : Node} (h : node.FieldsInOrder) {name : String}
    {value : FieldValue Node} (hmem : (name, value) ∈ node.fields) :
    node.field? name = some value := by
  obtain ⟨before, after, hfields⟩ := List.append_of_mem hmem
  refine List.lookup_eq_some_iff.mpr ⟨before, after, hfields, fun entry hentry => ?_⟩
  unfold FieldsInOrder at h
  rw [hfields] at h
  have hless := (List.pairwise_append.mp h).2.2 entry hentry _ List.mem_cons_self
  exact bne_iff_ne.mpr (ne_of_lt hless).symm

/-- Setting a field keeps the order. -/
theorem FieldsInOrder.setField {node : Node} (h : node.FieldsInOrder) (name : String)
    (value : FieldValue Node) : (node.setField name value).FieldsInOrder := by
  obtain ⟨kind, span, named, text, fields⟩ := node
  simp only [FieldsInOrder, Node.setField] at h ⊢
  induction fields with
  | nil => exact List.pairwise_singleton _ _
  | cons first fields ih =>
      obtain ⟨hfirst, hfields⟩ := List.pairwise_cons.mp h
      simp only [insertField]
      split
      · rename_i hless
        refine .cons (fun entry hentry => ?_) h
        rcases List.mem_cons.mp hentry with rfl | hentry
        · exact hless
        · exact lt_trans hless (hfirst entry hentry)
      · rename_i hnotLess
        split
        · rename_i heq
          subst heq
          exact .cons hfirst hfields
        · rename_i hne
          have hgreater : first.1 < name := lt_of_le_of_ne (not_lt.mp hnotLess) (Ne.symm hne)
          refine .cons (fun entry hentry => ?_) (ih hfields)
          rcases @mem_fields_setField ⟨kind, span, named, text, fields⟩ _ _ _ hentry with
            rfl | hbefore
          · exact hgreater
          · exact hfirst entry hbefore

/-- The children after a field was set are the nodes in the new value and children that were there
before. -/
theorem mem_children_setField {node child : Node} {name : String} {value : FieldValue Node}
    (h : child ∈ (node.setField name value).children) :
    child ∈ value.nodes ∨ child ∈ node.children := by
  obtain ⟨other, held, hmem, hchild⟩ := mem_children_iff.mp h
  rcases mem_fields_setField hmem with heq | hbefore
  · obtain ⟨rfl, rfl⟩ := Prod.mk.inj heq
    exact Or.inl hchild
  · exact Or.inr (mem_children_iff.mpr ⟨other, held, hbefore, hchild⟩)

/-! ### Texts that are changed -/

/-- Changing the texts in a list of fields changes each value. -/
theorem mapTextFields_eq_map (f : String → String) (fields : List (String × FieldValue Node)) :
    mapTextFields f fields = fields.map fun entry => (entry.1, mapTextValue f entry.2) := by
  induction fields with
  | nil => rfl
  | cons entry fields ih => simp [mapTextFields, ih]

/-- The fields after a change of texts. -/
theorem fields_mapText (f : String → String) (node : Node) :
    (node.mapText f).fields = node.fields.map fun entry => (entry.1, mapTextValue f entry.2) := by
  obtain ⟨kind, span, named, text, fields⟩ := node
  exact mapTextFields_eq_map f fields

@[simp] theorem named_mapText (f : String → String) (node : Node) :
    (node.mapText f).named = node.named := by
  cases node; rfl

/-- The nodes in a field after a change of texts. -/
theorem nodes_mapTextValue (f : String → String) (value : FieldValue Node) :
    (mapTextValue f value).nodes = value.nodes.map (mapText f) := by
  rcases value with text | (_ | node) | nodes
  · rfl
  · rfl
  · rfl
  · simp [mapTextValue, FieldValue.nodes, mapTextAll_eq_map]

/-- A field of the node after a change of texts. -/
theorem field?_mapText (f : String → String) (node : Node) (name : String) :
    (node.mapText f).field? name = (node.field? name).map (mapTextValue f) := by
  simp only [field?, fields_mapText]
  induction node.fields with
  | nil => rfl
  | cons entry fields ih =>
      rw [List.map_cons, List.lookup_cons, List.lookup_cons, ih]
      split <;> rfl

/-- The children after a change of texts. -/
theorem children_mapText (f : String → String) (node : Node) :
    (node.mapText f).children = node.children.map (mapText f) := by
  simp only [children, fields_mapText, List.flatMap_map, nodes_mapTextValue, List.map_flatMap]

/-- A change of texts moves none of the nodes. -/
theorem walk_mapText (f : String → String) (node : Node) :
    (node.mapText f).walk = node.walk.map (mapText f) := by
  induction node using induction_on_children with
  | step node ih =>
      rw [walk_eq, walk_eq node, children_mapText, List.map_cons, List.map_flatMap,
        List.flatMap_map]
      rw [List.flatMap_congr ih]

/-- A property that a change of texts keeps holds everywhere also behind the change. -/
theorem Everywhere.mapText {P : Node → Prop} {f : String → String} {node : Node}
    (h : node.Everywhere P) (hkeeps : ∀ node, P node → P (node.mapText f)) :
    (node.mapText f).Everywhere P := by
  intro visited hvisited
  rw [walk_mapText] at hvisited
  obtain ⟨before, hbefore, rfl⟩ := List.mem_map.mp hvisited
  exact hkeeps before (h before hbefore)

/-- A name that stands alone in the first line of a text, from one offset up to another. -/
def nameAt (text : String) (start stop : Nat) : Node where
  kind := "identifier"
  span := ⟨⟨1, start + 1, start⟩, ⟨1, stop + 1, stop⟩⟩
  text := some text

end Node

end StructuralSearch
