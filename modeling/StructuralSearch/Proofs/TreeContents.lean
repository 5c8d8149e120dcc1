import Mathlib.Data.List.Perm.Basic
import StructuralSearch.Proofs.BuiltFields
import StructuralSearch.Proofs.SpanBounds
import StructuralSearch.Proofs.SureSearch

/-!
# Nothing is lost and nothing is doubled

Which parts of a parse tree have a node is decided on the way down (`TreeBuilder.survivors`): extras and
skipped kinds fall away with all that is below them, a tree that gives way leaves only its named child,
and of the tokens those remain that stand in a sequence.

In a regular tree (`TreeBuilder.Regular`) every named child has a seat, and no single field is given two
values.  Then the children of a node are made from the children that remain, each of them once, in the
order of the fields (`TreeBuilder.children_ownNode_perm`).  So the nodes of the whole tree are made
from the survivors, one from each, and the elements of every sequence stand in the order of the text:
`TreeBuilder.walk_mirrors_survivors`.
-/

namespace StructuralSearch

namespace Node

/-- The nodes in the field of a name, if there is one. -/
def nodesAt (node : Node) (name : String) : List Node :=
  ((node.field? name).map FieldValue.nodes).getD []

/-- Setting a field exchanges the nodes in it and leaves the other children. -/
theorem children_setField_perm {node : Node} (h : node.FieldsInOrder) (name : String)
    (value : FieldValue Node) :
    ((node.setField name value).children ++ node.nodesAt name).Perm
      (value.nodes ++ node.children) := by
  obtain ⟨kind, span, named, text, fields⟩ := node
  simp only [FieldsInOrder, setField, children, nodesAt, field?] at h ⊢
  induction fields with
  | nil => simp [insertField]
  | cons entry fields ih =>
      obtain ⟨other, held⟩ := entry
      obtain ⟨hfirst, hfields⟩ := List.pairwise_cons.mp h
      simp only [insertField, List.lookup_cons]
      by_cases hless : name < other
      · -- all names are larger, so there was no such field
        have hnone : fields.lookup name = none := by
          refine List.lookup_eq_none_iff.mpr fun entry hentry => ?_
          exact bne_iff_ne.mpr (ne_of_lt (lt_trans hless (hfirst entry hentry)))
        have hne : (name == other) = false := beq_eq_false_iff_ne.mpr (ne_of_lt hless)
        simp [hless, hne, hnone]
      · by_cases heq : name = other
        · subst heq
          simp only [hless, ↓reduceIte, beq_self_eq_true, List.flatMap_cons, Option.map_some,
            Option.getD_some, List.append_assoc]
          exact (List.perm_append_comm).append_left _
        · have hne : (name == other) = false := beq_eq_false_iff_ne.mpr heq
          simp only [hless, heq, ↓reduceIte, hne, List.flatMap_cons, List.append_assoc]
          refine ((ih hfields).append_left held.nodes).trans ?_
          rw [← List.append_assoc, ← List.append_assoc]
          exact List.perm_append_comm.append_right _

/-- Putting something into a field that holds no nodes adds what is put there. -/
theorem children_setField_perm_of_empty {node : Node} (h : node.FieldsInOrder) {name : String}
    (hempty : node.nodesAt name = []) (value : FieldValue Node) :
    (node.setField name value).children.Perm (value.nodes ++ node.children) := by
  have hperm := children_setField_perm h name value
  rwa [hempty, List.append_nil] at hperm

/-- An element of a sequence is one more child. -/
theorem children_pushTo_perm {node : Node} (h : node.FieldsInOrder) {name : String}
    {nodes : List Node} (hfield : node.field? name = some (.sequence nodes)) (element : Node) :
    (node.pushTo name element).children.Perm (element :: node.children) := by
  have hperm := children_setField_perm h name (.sequence (nodes ++ [element]))
  have hheld : node.nodesAt name = nodes := by
    rw [nodesAt, hfield]
    rfl
  rw [hheld] at hperm
  simp only [FieldValue.nodes, List.append_assoc, List.singleton_append] at hperm
  unfold pushTo
  rw [hfield]
  exact (List.perm_append_left_iff nodes).mp (List.perm_append_comm.trans hperm)

end Node

namespace TreeBuilder

variable (builder : TreeBuilder)

/-! ### What a child adds -/

/-- The nodes that a child adds to those below the node. -/
def landing (layout : KindLayout) (child : ParseTree) (built : Node) : List Node :=
  match builder.seat? layout child with
  | none => []
  | some name =>
    if layout.single.contains name then (builder.singleValue child built).nodes
    else [builder.sequenceElement child built]

variable {builder} {layout : KindLayout}

/-- Attaching a child keeps the fields in order. -/
theorem fieldsInOrder_attach (hreserved : Node.childrenField ∉ layout.single) {node : Node}
    (h : node.FieldsInOrder) (child : ParseTree) (built : Node) :
    (builder.attach layout node (child, built)).FieldsInOrder := by
  rw [attach_eq_of_seat? hreserved]
  split
  · exact h
  · split
    · exact h.setField _ _
    · unfold Node.pushTo
      split
      · exact h.setField _ _
      · exact h

/-- A node begins with its fields in order. -/
theorem fieldsInOrder_emptyFields (layout : KindLayout) (tree : ParseTree) :
    (emptyFields layout { kind := tree.kind, span := tree.span }).FieldsInOrder :=
  emptyFields_induction .nil fun _ name _ value _ horder => horder.setField name value

/-- Attaching a child adds what it brings, if no child has had its seat in the same single field. -/
theorem children_attach_perm (hreserved : Node.childrenField ∉ layout.single) {node : Node}
    (horder : node.FieldsInOrder) {before : List (ParseTree × Node)}
    (hfields : ∀ name ∈ layout.fieldNames, node.field? name = some (builder.seatedValue layout name
      (before.filter fun child => builder.seat? layout child.1 == some name)))
    {child : ParseTree} (hfree : ∀ name ∈ layout.single, builder.seat? layout child = some name →
      (before.filter fun child => builder.seat? layout child.1 == some name) = []) (built : Node) :
    (builder.attach layout node (child, built)).children.Perm
      (builder.landing layout child built ++ node.children) := by
  rw [attach_eq_of_seat? hreserved, landing]
  cases hseat : builder.seat? layout child with
  | none => exact .refl _
  | some name =>
      have hfield := hfields name (mem_fieldNames_of_seat? hseat)
      by_cases hsingle : name ∈ layout.single
      · have hempty : node.nodesAt name = [] := by
          rw [Node.nodesAt, hfield, hfree name hsingle hseat, seatedValue,
            if_pos (List.contains_iff_mem.mpr hsingle)]
          simp only [List.getLast?_nil, emptyValue]
          split <;> rfl
        simp only [List.contains_eq_mem, hsingle, decide_true, ↓reduceIte]
        exact Node.children_setField_perm_of_empty horder hempty _
      · rw [seatedValue, if_neg (by simpa using hsingle)] at hfield
        simp only [List.contains_eq_mem, hsingle, decide_false, Bool.false_eq_true, ↓reduceIte]
        exact Node.children_pushTo_perm horder hfield _

/-- Attaching children one after the other adds what each of them brings, if no two of them have their
seats in one single field. -/
theorem children_foldl_attach_perm (hreserved : Node.childrenField ∉ layout.single) {node : Node}
    (horder : node.FieldsInOrder) {before built : List (ParseTree × Node)}
    (hfields : ∀ name ∈ layout.fieldNames, node.field? name = some (builder.seatedValue layout name
      (before.filter fun child => builder.seat? layout child.1 == some name)))
    (halone : ∀ name ∈ layout.single, ((before ++ built).filter fun child =>
      builder.seat? layout child.1 == some name).length ≤ 1) :
    (built.foldl (builder.attach layout) node).children.Perm
      (built.flatMap (fun child => builder.landing layout child.1 child.2) ++ node.children) := by
  induction built generalizing node before with
  | nil => exact .refl _
  | cons child built ih =>
      obtain ⟨tree, made⟩ := child
      have hfree : ∀ name ∈ layout.single, builder.seat? layout tree = some name →
          (before.filter fun child => builder.seat? layout child.1 == some name) = [] := by
        intro name hname hseat
        have hlength := halone name hname
        rw [List.filter_append, List.filter_cons_of_pos (by simp [hseat]), List.length_append,
          List.length_cons] at hlength
        exact List.length_eq_zero_iff.mp (by omega)
      have hattached := children_attach_perm hreserved horder hfields hfree made
      have hnext : ∀ name ∈ layout.fieldNames,
          (builder.attach layout node (tree, made)).field? name =
            some (builder.seatedValue layout name ((before ++ [(tree, made)]).filter fun child =>
              builder.seat? layout child.1 == some name)) := by
        intro name hname
        have hone := field?_foldl_attach hreserved (hfields name hname) [(tree, made)]
        rwa [← List.filter_append] at hone
      rw [List.append_cons] at halone
      rw [List.foldl_cons, List.flatMap_cons]
      refine (ih (fieldsInOrder_attach hreserved horder tree made) hnext halone).trans ?_
      refine (hattached.append_left _).trans ?_
      rw [← List.append_assoc]
      exact List.perm_append_comm.append_right _

variable (builder) in
/-- Whether a child of a tree remains: it is not dropped, and it is named or a token that stands in a
sequence of a tree that does not give way. -/
def keeps (tree child : ParseTree) : Bool :=
  !builder.isDropped child && (child.named || (!givesWay builder.profile tree &&
    child.field.any fun name =>
      !(builder.layout.fieldsOf tree.kind).single.contains name
        && (builder.layout.fieldsOf tree.kind).multiple.contains name))

/-- A part of a parse tree is regular: a token is a leaf, a named node with children is of a declared
kind in which each named child has a seat, no two children have their seats in one single field, and
a node gives way to no child that is dropped. -/
structure Regular (builder : TreeBuilder) (tree : ParseTree) : Prop where
  leaf : tree.named = false → tree.children.isEmpty
  declared : tree.children.isEmpty ∨ (builder.layout.kind? tree.kind).isSome
  seated : ∀ child ∈ tree.children, child.named = true → child.extra = false →
    child.field.any (fun name => (builder.layout.fieldsOf tree.kind).single.contains name
      || (builder.layout.fieldsOf tree.kind).multiple.contains name) ∨
    (builder.layout.fieldsOf tree.kind).hasChildren
  alone : ∀ name ∈ (builder.layout.fieldsOf tree.kind).single,
    (tree.children.filter fun child =>
      !builder.isDropped child && child.field == some name).length ≤ 1
  shown : givesWay builder.profile tree = true →
    ∀ child ∈ tree.children, child.named = true → builder.isDropped child = false

instance decidableRegular (builder : TreeBuilder) (tree : ParseTree) :
    Decidable (builder.Regular tree) :=
  decidable_of_iff ((tree.named = false → tree.children.isEmpty) ∧
      (tree.children.isEmpty ∨ (builder.layout.kind? tree.kind).isSome) ∧
      (∀ child ∈ tree.children, child.named = true → child.extra = false →
        child.field.any (fun name => (builder.layout.fieldsOf tree.kind).single.contains name
          || (builder.layout.fieldsOf tree.kind).multiple.contains name) ∨
        (builder.layout.fieldsOf tree.kind).hasChildren) ∧
      (∀ name ∈ (builder.layout.fieldsOf tree.kind).single,
        (tree.children.filter fun child =>
          !builder.isDropped child && child.field == some name).length ≤ 1) ∧
      (givesWay builder.profile tree = true →
        ∀ child ∈ tree.children, child.named = true → builder.isDropped child = false))
    ⟨fun ⟨hleaf, hdeclared, hseated, halone, hshown⟩ =>
        ⟨hleaf, hdeclared, hseated, halone, hshown⟩,
      fun h => ⟨h.leaf, h.declared, h.seated, h.alone, h.shown⟩⟩

/-- Keywords are no children. -/
theorem children_addKeywords_perm {node : Node} (h : node.FieldsInOrder)
    (hnone : node.field? Node.keywordsField = none) (words : List String) :
    (addKeywords node words).children.Perm node.children := by
  cases words with
  | nil => exact .refl _
  | cons word words =>
      refine Node.children_setField_perm_of_empty h ?_ (.token _)
      rw [Node.nodesAt, hnone]
      rfl

section Children

variable {tree : ParseTree} (hreserved : builder.layout.ReservesNames)
  (hregular : builder.Regular tree) (hway : givesWay builder.profile tree = false)
include hreserved hregular hway

/-- A child that remains brings one node, and any other child none. -/
theorem landing_eq {child : ParseTree} (hchild : child ∈ tree.children) (built : Node) :
    builder.landing (builder.layout.fieldsOf tree.kind) child built =
      if builder.keeps tree child then [builder.sequenceElement child built] else [] := by
  have hchildren := hreserved.children_not_mem tree.kind
  unfold landing keeps seat?
  rw [hway]
  cases hdropped : builder.isDropped child with
  | true => simp
  | false =>
      have hextra : child.extra = false := by
        unfold isDropped at hdropped
        exact (Bool.or_eq_false_iff.mp hdropped).1
      have hseated := hregular.seated child hchild
      generalize builder.layout.fieldsOf tree.kind = layout at hchildren hseated ⊢
      cases hnamed : child.named with
      | true =>
          have hvalue : (builder.singleValue child built).nodes =
              [builder.sequenceElement child built] := by
            simp [singleValue, sequenceElement, hnamed, FieldValue.nodes]
          have hsomewhere := hseated hnamed hextra
          cases hfield : child.field with
          | none =>
              have hhas : layout.hasChildren = true := by simpa [hfield] using hsomewhere
              simp [Option.filter, hhas, hchildren]
          | some name =>
              by_cases hdeclared : name ∈ layout.single ∨ name ∈ layout.multiple
              · simp [Option.filter, hdeclared, hvalue]
              · have hhas : layout.hasChildren = true := by
                  simpa [hfield, hdeclared] using hsomewhere
                simp [Option.filter, hdeclared, hhas, hchildren]
      | false =>
          have hvalue : (builder.singleValue child built).nodes = [] := by
            simp [singleValue, hnamed, FieldValue.nodes]
          cases child.field with
          | none => simp [Option.filter]
          | some name =>
              by_cases hsingle : name ∈ layout.single
              · simp [Option.filter, hsingle, hvalue]
              · by_cases hmultiple : name ∈ layout.multiple
                · simp [Option.filter, hsingle, hmultiple]
                · simp [Option.filter, hsingle, hmultiple]

/-- **The children of a node.**  They are made from the children of the tree that remain, one from each.
-/
theorem children_ownNode_perm :
    (builder.ownNode tree).children.Perm
      ((tree.children.filter (builder.keeps tree)).map builder.element) := by
  have hchildren := hreserved.children_not_mem tree.kind
  have hlanding : (builder.buildAll tree.children).flatMap (fun child =>
        builder.landing (builder.layout.fieldsOf tree.kind) child.1 child.2) =
      (tree.children.filter (builder.keeps tree)).map builder.element := by
    rw [buildAll_eq_map, List.flatMap_map, List.flatMap_congr fun child hchild =>
      landing_eq hreserved hregular hway hchild (builder.build child)]
    induction tree.children with
    | nil => rfl
    | cons child children ih =>
        rw [List.flatMap_cons, List.filter_cons, ih]
        split <;> rfl
  have hfill : (builder.fill tree (builder.buildAll tree.children)).children.Perm
      ((tree.children.filter (builder.keeps tree)).map builder.element) := by
    rw [← hlanding]
    unfold fill
    cases hkind : builder.layout.kind? tree.kind with
    | none =>
        have hleaf : tree.children = [] := by
          simpa [hkind] using hregular.declared
        rw [hleaf]
        exact .refl _
    | some layout =>
        have hof : builder.layout.fieldsOf tree.kind = layout := by simp [Layout.fieldsOf, hkind]
        have halone := hregular.alone
        rw [hof] at hchildren halone ⊢
        have hbare : (emptyFields layout { kind := tree.kind, span := tree.span }).children = [] := by
          refine List.eq_nil_iff_forall_not_mem.mpr fun child hchild => ?_
          simpa [Node.children] using mem_children_emptyFields hchild
        have hbegin : ∀ name ∈ layout.fieldNames,
            (emptyFields layout { kind := tree.kind, span := tree.span }).field? name =
              some (builder.seatedValue layout name
                (([] : List (ParseTree × Node)).filter fun child =>
                  builder.seat? layout child.1 == some name)) := by
          intro name hname
          rw [field?_emptyFields hchildren _ hname, List.filter_nil, seatedValue_nil]
        have hfree : ∀ name ∈ layout.single,
            ((([] : List (ParseTree × Node)) ++ builder.buildAll tree.children).filter fun child =>
              builder.seat? layout child.1 == some name).length ≤ 1 := by
          intro name hname
          have hsame : ∀ child : ParseTree, (builder.seat? layout child == some name) =
              (!builder.isDropped child && child.field == some name) := by
            intro child
            rw [Bool.eq_iff_iff]
            simpa using seat?_eq_single_iff hchildren hname child
          rw [List.nil_append, buildAll_eq_map, List.filter_map, List.length_map]
          simpa only [Function.comp_def, hsame] using halone name hname
        have hperm := children_foldl_attach_perm hchildren
          (fieldsInOrder_emptyFields layout tree) hbegin hfree
        rwa [hbare, List.append_nil] at hperm
  unfold ownNode assemble
  refine (children_addKeywords_perm ?_ ?_ _).trans hfill
  · exact (growing_fill tree (builder.forall_mem_buildAll fun child _ =>
      builder.everywhere_fits_build child)).inOrder
  · exact field?_fill_of_not_mem hreserved (hreserved.keywords_not_mem tree.kind) _

end Children

/-! ### What remains of a whole tree -/

variable (builder)

mutual

/-- The parts of a tree that have a node, each before those below it: the tree, unless it gives way, and
what remains of the children that remain. -/
def survivors : ParseTree → List ParseTree
  | ⟨kind, named, extra, isError, isMissing, hasError, field, start, stop, children⟩ =>
    let tree := ⟨kind, named, extra, isError, isMissing, hasError, field, start, stop, children⟩
    let below := survivorsOf (builder.keeps tree) children
    if givesWay builder.profile tree then below else tree :: below

/-- What remains of the trees of a list that are kept. -/
def survivorsOf (keep : ParseTree → Bool) : List ParseTree → List ParseTree
  | [] => []
  | tree :: trees =>
    if keep tree then survivors tree ++ survivorsOf keep trees else survivorsOf keep trees

end

/-- What remains of a list is what remains of the trees that are kept. -/
theorem survivorsOf_eq_flatMap (keep : ParseTree → Bool) (trees : List ParseTree) :
    builder.survivorsOf keep trees = (trees.filter keep).flatMap builder.survivors := by
  induction trees with
  | nil => rfl
  | cons tree trees ih =>
      rw [survivorsOf, List.filter_cons]
      split
      · rw [List.flatMap_cons, ih]
      · exact ih

/-- What remains of a tree: the tree, unless it gives way, and what remains of its children. -/
theorem survivors_eq (tree : ParseTree) :
    builder.survivors tree =
      if givesWay builder.profile tree then
        (tree.children.filter (builder.keeps tree)).flatMap builder.survivors
      else tree :: (tree.children.filter (builder.keeps tree)).flatMap builder.survivors := by
  obtain ⟨kind, named, extra, isError, isMissing, hasError, field, start, stop, children⟩ := tree
  simp only [survivors, survivorsOf_eq_flatMap]

/-- What remains are parts of the tree, each of them once. -/
theorem survivors_sublist_parts (tree : ParseTree) :
    (builder.survivors tree).Sublist tree.parts := by
  induction tree using ParseTree.induction_on_children with
  | step tree ih =>
      have hbelow : ∀ children : List ParseTree,
          (∀ child ∈ children, (builder.survivors child).Sublist child.parts) →
          ((children.filter (builder.keeps tree)).flatMap builder.survivors).Sublist
            (children.flatMap ParseTree.parts) := by
        intro children
        induction children with
        | nil => intro _; exact .refl _
        | cons child children ihc =>
            intro hchildren
            have hrest := ihc fun other hother => hchildren other (List.mem_cons_of_mem _ hother)
            rw [List.filter_cons, List.flatMap_cons]
            split
            · rw [List.flatMap_cons]
              exact (hchildren child List.mem_cons_self).append hrest
            · exact hrest.trans (List.sublist_append_right _ _)
      rw [survivors_eq, ParseTree.parts_eq]
      split
      · exact (hbelow tree.children ih).cons tree
      · exact (hbelow tree.children ih).cons_cons tree

/-- A node mirrors a part of the parse tree: it has its kind and its span, and in each sequence there is
one element for each of the children that have their seats there, in the order of the text. -/
structure Mirrors (node : Node) (part : ParseTree) : Prop where
  kind : node.kind = part.kind
  span : node.span = part.span
  inOrder : ∀ name nodes, node.field? name = some (.sequence nodes) →
    List.Forall₂ (fun element child => element.kind = (standIn builder.profile child).kind ∧
      element.span = (standIn builder.profile child).span) nodes (builder.seated part name)

variable {builder}

/-- The node of a tree has the kind and the span of the tree that stands in for it. -/
theorem kind_span_build (tree : ParseTree) :
    (builder.build tree).kind = (standIn builder.profile tree).kind ∧
      (builder.build tree).span = (standIn builder.profile tree).span := by
  rw [build_eq_ownNode]
  exact ⟨builder.kind_ownNode _, builder.span_assemble _ _⟩

/-- The element that a child gives to a sequence has the kind and the span of the tree that stands in
for the child, if tokens are leaves. -/
theorem kind_span_element {child : ParseTree}
    (hleaf : child.named = false → child.children = []) :
    (builder.element child).kind = (standIn builder.profile child).kind ∧
      (builder.element child).span = (standIn builder.profile child).span := by
  unfold element sequenceElement
  cases hnamed : child.named with
  | true => exact kind_span_build child
  | false =>
      have hway : givesWay builder.profile child = false := by simp [givesWay, hleaf hnamed]
      rw [standIn_of_not_givesWay hway]
      exact ⟨rfl, rfl⟩

/-- A token as an element of a sequence mirrors the token. -/
theorem mirrors_ofToken (tree : ParseTree) (text : String) :
    builder.Mirrors (.ofToken tree.kind text tree.span) tree :=
  ⟨rfl, rfl, nofun⟩

/-- A node that is put together mirrors its tree. -/
theorem mirrors_ownNode {tree : ParseTree} (hreserved : builder.layout.ReservesNames)
    (hleaves : ∀ child ∈ tree.children, child.named = false → child.children = []) :
    builder.Mirrors (builder.ownNode tree) tree where
  kind := builder.kind_ownNode tree
  span := builder.span_assemble tree _
  inOrder := by
    intro name nodes hfield
    have hadmits := (builder.growing_assemble_buildAll tree).admits name _
      (Node.mem_fields_of_field? hfield)
    have hname := hadmits.mem_fieldNames nofun
    rw [field?_ownNode hreserved hname] at hfield
    have hvalue := Option.some.inj hfield
    unfold fieldValue seatedValue at hvalue
    split at hvalue
    · -- a single field holds a sequence only as long as it is empty
      split at hvalue
      · unfold singleValue at hvalue
        split at hvalue <;> cases hvalue
      · rename_i hnone
        rw [List.getLast?_eq_none_iff, List.map_eq_nil_iff] at hnone
        unfold emptyValue at hvalue
        split at hvalue
        · obtain rfl := FieldValue.sequence.inj hvalue
          rw [hnone]
          exact .nil
        · cases hvalue
    · obtain rfl := FieldValue.sequence.inj hvalue
      rw [List.map_map, List.forall₂_map_left_iff, List.forall₂_same]
      intro child hchild
      exact kind_span_element (hleaves child (List.mem_of_mem_filter hchild))

/-- The nodes of a list mirror some parts of parse trees, one each, in some order. -/
def MirrorAll (builder : TreeBuilder) (nodes : List Node) (parts : List ParseTree) : Prop :=
  ∃ order : List ParseTree, order.Perm parts ∧ List.Forall₂ builder.Mirrors nodes order

/-- A token that is a leaf remains alone. -/
theorem mirrorAll_ofToken {tree : ParseTree} (hleaf : tree.children = []) (text : String) :
    builder.MirrorAll (Node.ofToken tree.kind text tree.span).walk (builder.survivors tree) := by
  have hway : givesWay builder.profile tree = false := by simp [givesWay, hleaf]
  rw [survivors_eq, hway, hleaf]
  exact ⟨[tree], .refl _, .cons (mirrors_ofToken tree text) .nil⟩

/-- What mirrors the parts one by one mirrors them all. -/
theorem MirrorAll.flatMap {nodes : List Node} {trees : List ParseTree}
    (h : List.Forall₂ (fun node tree => builder.MirrorAll node.walk (builder.survivors tree))
      nodes trees) :
    builder.MirrorAll (nodes.flatMap Node.walk) (trees.flatMap builder.survivors) := by
  induction h with
  | nil => exact ⟨[], .refl _, .nil⟩
  | cons first _ ih =>
      obtain ⟨order, hperm, hmirrors⟩ := first
      obtain ⟨later, hlater, hothers⟩ := ih
      exact ⟨order ++ later, hperm.append hlater, List.rel_append hmirrors hothers⟩

/-- The nodes of the tree that is built mirror the survivors, one each.  The induction is on the parse
tree; the children of its node come in another order, that of the fields. -/
theorem mirrorAll_build {tree : ParseTree} (hreserved : builder.layout.ReservesNames)
    (hregular : ∀ part ∈ tree.parts, builder.Regular part) :
    builder.MirrorAll (builder.build tree).walk (builder.survivors tree) := by
  induction tree using ParseTree.induction_on_children with
  | step tree ih =>
      have hself := hregular tree tree.mem_parts_self
      have hbelow : ∀ child ∈ tree.children, ∀ part ∈ child.parts, builder.Regular part :=
        fun child hchild part hpart =>
          hregular part (ParseTree.mem_parts_iff.mpr (Or.inr ⟨child, hchild, hpart⟩))
      rw [survivors_eq]
      cases hway : givesWay builder.profile tree with
      | true =>
          obtain ⟨inner, hinner⟩ := exists_of_givesWay hway
          have hmem := mem_children_of_filter_named hinner
          have hkept : tree.children.filter (builder.keeps tree) = [inner] := by
            rw [← hinner]
            refine List.filter_congr fun child hchild => ?_
            unfold keeps
            rw [hway]
            cases hnamed : child.named with
            | true => simp [hself.shown hway child hchild hnamed]
            | false => simp
          rw [build_of_givesWay hway hinner, hkept, if_pos rfl, List.flatMap_singleton]
          exact ih inner hmem (hbelow inner hmem)
      | false =>
          have hleaves : ∀ child ∈ tree.children, child.named = false → child.children = [] :=
            fun child hchild hnamed =>
              List.isEmpty_iff.mp ((hbelow child hchild child child.mem_parts_self).leaf hnamed)
          have heach : List.Forall₂
              (fun node child => builder.MirrorAll node.walk (builder.survivors child))
              ((tree.children.filter (builder.keeps tree)).map builder.element)
              (tree.children.filter (builder.keeps tree)) := by
            rw [List.forall₂_map_left_iff, List.forall₂_same]
            intro child hchild
            have hmem := List.mem_of_mem_filter hchild
            unfold element sequenceElement
            cases hnamed : child.named with
            | true => exact ih child hmem (hbelow child hmem)
            | false => exact mirrorAll_ofToken (hleaves child hmem hnamed) _
          obtain ⟨order, hmirrors, hperm⟩ := List.perm_comp_forall₂
            (children_ownNode_perm hreserved hself hway) heach
          obtain ⟨parts, hparts, hall⟩ := MirrorAll.flatMap hmirrors
          rw [build_of_not_givesWay hway, Node.walk_eq, if_neg nofun]
          exact ⟨tree :: parts, (hparts.trans (hperm.flatMap_right _)).cons tree,
            .cons (mirrors_ownNode hreserved hleaves) hall⟩

/-- **Nothing is lost and nothing is doubled.**  If all parts of a parse tree are regular, then the nodes
of the tree that is built mirror the survivors, one each, and the survivors are parts of the tree, none
of them taken twice. -/
theorem walk_mirrors_survivors {tree : ParseTree} (hreserved : builder.layout.ReservesNames)
    (hregular : ∀ part ∈ tree.parts, builder.Regular part) :
    (builder.survivors tree).Sublist tree.parts ∧
    ∃ order : List ParseTree, order.Perm (builder.survivors tree) ∧
      List.Forall₂ builder.Mirrors (builder.build tree).walk order :=
  ⟨builder.survivors_sublist_parts tree, mirrorAll_build hreserved hregular⟩

/-- In `f((a), call)` the brackets and the comma fall away and the group gives way to the name in it; the
word `call` remains, because it is an argument. -/
theorem grouped_call_mirrored :
    let builder : TreeBuilder :=
      { profile := { Calls.profile with transparentKinds := ["group"] }
        layout := ⟨("group", { hasChildren := true }) :: Calls.layout.kinds⟩
        source := "f((a),call)" }
    let bracket : Nat → ParseTree := fun start =>
      { Calls.tree "bracket" none start (start + 1) [] with named := false }
    let group := Calls.tree "group" (some "argument") 2 5 [bracket 2, Calls.name 3 4, bracket 4]
    let tree := Calls.program 11 [group, Calls.word 6 10]
    builder.layout.ReservesNames ∧ (∀ part ∈ tree.parts, builder.Regular part) ∧
    (builder.survivors tree).Sublist tree.parts ∧
    ∃ order : List ParseTree, order.Perm (builder.survivors tree) ∧
      List.Forall₂ builder.Mirrors (builder.build tree).walk order := by
  intro builder bracket group tree
  have hreserved : builder.layout.ReservesNames := by decide
  have hregular : ∀ part ∈ tree.parts, builder.Regular part := by decide
  exact ⟨hreserved, hregular, walk_mirrors_survivors hreserved hregular⟩

end TreeBuilder

end StructuralSearch
