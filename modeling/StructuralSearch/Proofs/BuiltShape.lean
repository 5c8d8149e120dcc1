import StructuralSearch.Grammar
import StructuralSearch.Proofs.Nodes

/-!
# The shape of built nodes

What a tree builder makes follows the layout.  A named node has every field that its kind declares,
whatever stands in it, and beyond these it may only have keywords; single fields hold a child, no
child or a token, and the other fields hold sequences.  The elements of sequences may also be
tokens, which have no fields at all.

A node is begun with empty fields, its children are attached one after the other, and at the end it
gets its text and its keywords.  `Growing` is what each of these steps keeps, and
`everywhere_fits_build` is what comes out for a whole tree.
-/

namespace StructuralSearch

namespace KindLayout

/-- The names of all declared fields. -/
def fieldNames (layout : KindLayout) : List String :=
  layout.single ++ layout.multiple ++ if layout.hasChildren then [Node.childrenField] else []

/-- Whether a value may stand in the field of a name: a child in a single field, a sequence in the
others, and a token in a single field or as the keywords. -/
def Admits (layout : KindLayout) (name : String) : FieldValue Node → Prop
  | .token _ => name ∈ layout.single ∨ name = Node.keywordsField
  | .child _ => name ∈ layout.single
  | .sequence _ => name ∈ layout.multiple ∨ layout.hasChildren ∧ name = Node.childrenField

/-- A field that holds more than a token is declared. -/
theorem Admits.mem_fieldNames {layout : KindLayout} {name : String} {value : FieldValue Node}
    (h : layout.Admits name value) (hvalue : ∀ text, value ≠ .token text) :
    name ∈ layout.fieldNames := by
  cases value <;> simp only [Admits, fieldNames, List.mem_append] at h ⊢ <;> grind

end KindLayout

namespace Layout

variable (layout : Layout)

/-- The declared fields of a kind; there are none for a kind that is not declared. -/
def fieldsOf (kind : String) : KindLayout :=
  (layout.kind? kind).getD {}

/-- A node has every field that its kind declares. -/
def Covers (node : Node) : Prop :=
  ∀ name ∈ (layout.fieldsOf node.kind).fieldNames, (node.field? name).isSome

/-- A token is of a kind that declares no fields. -/
def BareToken (node : Node) : Prop :=
  node.named = false → (layout.fieldsOf node.kind).fieldNames = []

instance decidableBareToken (node : Node) : Decidable (layout.BareToken node) :=
  inferInstanceAs (Decidable (node.named = false → (layout.fieldsOf node.kind).fieldNames = []))

/-- The fields of a node hold what they may hold, and none but declared ones and keywords are
there. -/
def Allows (node : Node) : Prop :=
  ∀ name value, (name, value) ∈ node.fields → (layout.fieldsOf node.kind).Admits name value

/-- A node has the shape that the layout asks for: a named node has exactly the declared fields and
perhaps keywords, and each field holds what it may hold; a token has no fields. -/
structure Fits (node : Node) : Prop where
  /-- a token has no fields -/
  token : node.named = false → node.fields = []
  /-- a named node has all declared fields -/
  covers : node.named = true → layout.Covers node
  /-- the fields hold what they may hold, and none but declared ones and keywords are there -/
  admits : ∀ name value, (name, value) ∈ node.fields →
    (layout.fieldsOf node.kind).Admits name value

variable {layout}

/-- A node of the right shape has no fields but those that the layout allows. -/
theorem Fits.allows {node : Node} (h : layout.Fits node) : layout.Allows node :=
  h.admits

/-- A node of the right shape has all fields of its kind, unless it is a token of a kind with
fields. -/
theorem Fits.covers_of_bareToken {node : Node} (h : layout.Fits node)
    (htoken : layout.BareToken node) : layout.Covers node := by
  intro name hname
  cases hnamed : node.named with
  | true => exact h.covers hnamed name hname
  | false => simp [htoken hnamed] at hname

/-- A change of texts keeps the shape. -/
theorem Fits.mapText {node : Node} (h : layout.Fits node) (f : String → String) :
    layout.Fits (node.mapText f) where
  token hnamed := by
    rw [Node.named_mapText] at hnamed
    rw [Node.fields_mapText, h.token hnamed, List.map_nil]
  covers hnamed name hname := by
    rw [Node.named_mapText] at hnamed
    rw [Node.kind_mapText] at hname
    rw [Node.field?_mapText, Option.isSome_map]
    exact h.covers hnamed name hname
  admits name value hmem := by
    rw [Node.fields_mapText] at hmem
    obtain ⟨⟨name, before⟩, hbefore, heq⟩ := List.mem_map.mp hmem
    obtain ⟨rfl, rfl⟩ := Prod.mk.inj heq
    have hadmits := h.admits name before hbefore
    rw [Node.kind_mapText]
    rcases before with text | (_ | node) | nodes <;> exact hadmits

/-- A token that was made an element of a sequence has the right shape. -/
theorem fits_ofToken (kind text : String) (span : Span) :
    layout.Fits (Node.ofToken kind text span) where
  token _ := rfl
  covers hnamed := by simp [Node.ofToken] at hnamed
  admits name value hmem := by simp [Node.ofToken] at hmem

end Layout

/-- **Induction on parse trees.**  What passes from the children of a tree to the tree holds of
every tree. -/
theorem ParseTree.induction_on_children {motive : ParseTree → Prop} (tree : ParseTree)
    (step : ∀ tree : ParseTree, (∀ child ∈ tree.children, motive child) → motive tree) :
    motive tree :=
  step tree fun child _hchild => induction_on_children child step
termination_by sizeOf tree
decreasing_by
  have hlt := List.sizeOf_lt_of_mem _hchild
  obtain ⟨kind, named, extra, isError, isMissing, hasError, field, start, stop, children⟩ := tree
  simp +arith at hlt ⊢
  omega

namespace TreeBuilder

/-- What every step in the making of a node keeps: the node is of its kind, the fields named in
`present` are there, the fields stand in the order of their names and hold what they may hold, and all
below is of the right shape. -/
structure Growing (layout : Layout) (kind : String) (present : List String) (node : Node) :
    Prop where
  kind_eq : node.kind = kind
  named : node.named = true
  present : ∀ name ∈ present, (node.field? name).isSome
  inOrder : node.FieldsInOrder
  admits : ∀ name value, (name, value) ∈ node.fields → (layout.fieldsOf kind).Admits name value
  below : ∀ child ∈ node.children, child.Everywhere layout.Fits

section Steps

variable {layout : Layout} {kind : String} {present : List String} {node : Node}

/-- A node that is done has the right shape, and so has all below it. -/
theorem Growing.everywhere_fits
    (h : Growing layout kind (layout.fieldsOf kind).fieldNames node) :
    node.Everywhere layout.Fits := by
  refine Node.everywhere_of_children ⟨fun hnamed => ?_, fun _ => ?_, ?_⟩ h.below
  · simp [h.named] at hnamed
  · unfold Layout.Covers
    rw [h.kind_eq]
    exact h.present
  · rw [h.kind_eq]
    exact h.admits

/-- It is enough to know of some of the fields that they are there. -/
theorem Growing.weaken {fewer : List String} (h : Growing layout kind present node)
    (hfewer : ∀ name ∈ fewer, name ∈ present) : Growing layout kind fewer node :=
  { h with present := fun name hname => h.present name (hfewer name hname) }

/-- Setting a field to something that it may hold keeps the invariant, and the field is there. -/
theorem Growing.setField (h : Growing layout kind present node) (name : String)
    (value : FieldValue Node) (hvalue : (layout.fieldsOf kind).Admits name value)
    (hnodes : ∀ child ∈ value.nodes, child.Everywhere layout.Fits) :
    Growing layout kind (name :: present) (node.setField name value) where
  kind_eq := h.kind_eq
  named := h.named
  present other hother := by
    rw [Node.field?_setField]
    split
    · rfl
    · rename_i hne
      exact h.present other ((List.mem_cons.mp hother).resolve_left hne)
  inOrder := h.inOrder.setField name value
  admits other held hmem := by
    rcases Node.mem_fields_setField hmem with heq | hbefore
    · obtain ⟨rfl, rfl⟩ := Prod.mk.inj heq
      exact hvalue
    · exact h.admits other held hbefore
  below child hchild := by
    rcases Node.mem_children_setField hchild with hnew | hbefore
    · exact hnodes child hnew
    · exact h.below child hbefore

/-- Setting fields to one empty value, name after name, keeps the invariant. -/
theorem Growing.foldl_setField (value : FieldValue Node) (hnodes : value.nodes = [])
    (names : List String) (hvalue : ∀ name ∈ names, (layout.fieldsOf kind).Admits name value)
    (h : Growing layout kind present node) :
    Growing layout kind (names ++ present)
      (names.foldl (fun node name => node.setField name value) node) := by
  induction names generalizing present node with
  | nil => exact h
  | cons name names ih =>
      have hfirst := h.setField name value (hvalue name List.mem_cons_self) (by simp [hnodes])
      have hrest := ih (fun other hother => hvalue other (List.mem_cons_of_mem _ hother)) hfirst
      exact hrest.weaken (by simp +contextual [or_imp])

/-- Adding an element to a sequence keeps the invariant. -/
theorem Growing.pushTo (h : Growing layout kind present node) (name : String) {element : Node}
    (helement : element.Everywhere layout.Fits) :
    Growing layout kind present (node.pushTo name element) := by
  unfold Node.pushTo
  split
  · rename_i nodes hfield
    have hadmits := h.admits name _ (Node.mem_fields_of_field? hfield)
    refine (h.setField name (.sequence (nodes ++ [element])) hadmits ?_).weaken
      fun _ => List.mem_cons_of_mem _
    intro child hchild
    rcases List.mem_append.mp (show child ∈ nodes ++ [element] from hchild) with hold | hnew
    · exact h.below child (Node.mem_children_of_field? hfield hold)
    · rwa [List.mem_singleton.mp hnew]
  · exact h

/-- With its empty fields a node has all that its kind declares. -/
theorem Growing.emptyFields (h : Growing layout kind [] node) :
    Growing layout kind (layout.fieldsOf kind).fieldNames
      (TreeBuilder.emptyFields (layout.fieldsOf kind) node) := by
  have hsingle := h.foldl_setField (.child none) rfl (layout.fieldsOf kind).single
    fun _ hname => hname
  have hmultiple := hsingle.foldl_setField (.sequence []) rfl
    (layout.fieldsOf kind).multiple fun _ hname => Or.inl hname
  unfold TreeBuilder.emptyFields KindLayout.fieldNames
  split
  · rename_i hchildren
    refine (hmultiple.setField Node.childrenField (.sequence [])
      (Or.inr ⟨hchildren, rfl⟩) (by simp [FieldValue.nodes])).weaken ?_
    grind
  · exact hmultiple.weaken (by grind)

end Steps

/-- What a node keeps whenever a declared field is set to a value without nodes it still has when it has
got its empty fields. -/
theorem emptyFields_induction {P : Node → Prop} {layout : KindLayout} {node : Node} (h : P node)
    (hset : ∀ node, ∀ name ∈ layout.fieldNames, ∀ value : FieldValue Node, value.nodes = [] →
      P node → P (node.setField name value)) : P (emptyFields layout node) := by
  have hall : ∀ (value : FieldValue Node) (names : List String), value.nodes = [] →
      (∀ name ∈ names, name ∈ layout.fieldNames) → ∀ node, P node →
      P (names.foldl (fun node name => node.setField name value) node) := by
    intro value names hempty hnames node hnode
    exact List.foldlRecOn names _ hnode fun node hnode name hname =>
      hset node name (hnames name hname) value hempty hnode
  have hdeclared := hall (.sequence []) layout.multiple rfl
    (fun name hname => by simp [KindLayout.fieldNames, hname]) _
    (hall (.child none) layout.single rfl
      (fun name hname => by simp [KindLayout.fieldNames, hname]) node h)
  unfold emptyFields
  dsimp only
  split
  · rename_i hchildren
    exact hset _ _ (by simp [KindLayout.fieldNames, hchildren]) _ rfl hdeclared
  · exact hdeclared

variable {builder : TreeBuilder} {kind : String} {present : List String} {node : Node}

/-- The element that a child gives to a sequence has the right shape. -/
theorem everywhere_fits_sequenceElement {tree : ParseTree} {built : Node}
    (hbuilt : built.Everywhere builder.layout.Fits) :
    (builder.sequenceElement tree built).Everywhere builder.layout.Fits := by
  unfold sequenceElement
  split
  · exact hbuilt
  · refine Node.everywhere_of_children (Layout.fits_ofToken _ _ _) ?_
    simp [Node.ofToken, Node.children]

/-- Putting a child under `children` keeps the invariant. -/
theorem Growing.attachUnfielded (h : Growing builder.layout kind present node)
    (layout : KindLayout) (tree : ParseTree) {built : Node}
    (hbuilt : built.Everywhere builder.layout.Fits) :
    Growing builder.layout kind present (attachUnfielded layout node tree built) := by
  unfold TreeBuilder.attachUnfielded
  split
  · exact h.pushTo _ hbuilt
  · exact h

/-- Giving a single field the value of a child keeps the invariant. -/
theorem Growing.setSingle (h : Growing builder.layout kind present node) {name : String}
    (hname : name ∈ (builder.layout.fieldsOf kind).single) (tree : ParseTree) {built : Node}
    (hbuilt : built.Everywhere builder.layout.Fits) :
    Growing builder.layout kind present
      (node.setField name (builder.singleValue tree built)) := by
  suffices hset : Growing builder.layout kind (name :: present)
      (node.setField name (builder.singleValue tree built)) from
    hset.weaken fun _ => List.mem_cons_of_mem _
  unfold singleValue
  split
  · exact h.setField name (.child (some built)) hname (by simpa [FieldValue.nodes] using hbuilt)
  · exact h.setField name (.token _) (Or.inl hname) (by simp [FieldValue.nodes])

/-- Attaching a child whose node has the right shape keeps the invariant. -/
theorem Growing.attach (h : Growing builder.layout kind present node) (tree : ParseTree)
    {built : Node} (hbuilt : built.Everywhere builder.layout.Fits) :
    Growing builder.layout kind present
      (builder.attach (builder.layout.fieldsOf kind) node (tree, built)) := by
  simp only [TreeBuilder.attach]
  split
  · exact h
  · split
    · rename_i name _
      split
      · rename_i hsingle
        exact h.setSingle (List.contains_iff_mem.mp hsingle) tree hbuilt
      · split
        · exact h.pushTo name (everywhere_fits_sequenceElement hbuilt)
        · exact h.attachUnfielded _ tree hbuilt
    · exact h.attachUnfielded _ tree hbuilt

/-- The fields of a tree whose children have nodes of the right shape. -/
theorem growing_fill (tree : ParseTree) {built : List (ParseTree × Node)}
    (hbuilt : ∀ child ∈ built, child.2.Everywhere builder.layout.Fits) :
    Growing builder.layout tree.kind (builder.layout.fieldsOf tree.kind).fieldNames
      (builder.fill tree built) := by
  have hbare : Growing builder.layout tree.kind []
      { kind := tree.kind, span := tree.span } :=
    ⟨rfl, rfl, by simp, .nil, by simp, by simp [Node.children]⟩
  simp only [fill]
  split
  · rename_i fields hfields
    have hof : builder.layout.fieldsOf tree.kind = fields := by simp [Layout.fieldsOf, hfields]
    rw [← hof]
    refine List.foldlRecOn built _ hbare.emptyFields ?_
    intro node hnode child hchild
    exact hnode.attach child.1 (hbuilt child hchild)
  · rename_i hfields
    have hof : builder.layout.fieldsOf tree.kind = {} := by simp [Layout.fieldsOf, hfields]
    exact hbare.weaken (by simp [hof, KindLayout.fieldNames])

/-- A node gets its text and its keywords without losing the invariant. -/
theorem growing_assemble (tree : ParseTree) {built : List (ParseTree × Node)}
    (hbuilt : ∀ child ∈ built, child.2.Everywhere builder.layout.Fits) :
    Growing builder.layout tree.kind (builder.layout.fieldsOf tree.kind).fieldNames
      (builder.assemble tree built) := by
  have hfill := growing_fill tree hbuilt
  have htext : Growing builder.layout tree.kind (builder.layout.fieldsOf tree.kind).fieldNames
      { builder.fill tree built with text := builder.nodeText tree } :=
    ⟨hfill.kind_eq, hfill.named, hfill.present, hfill.inOrder, hfill.admits, hfill.below⟩
  unfold assemble addKeywords
  split
  · exact htext
  · exact (htext.setField Node.keywordsField (.token _) (Or.inr rfl)
      (by simp [FieldValue.nodes])).weaken fun _ => List.mem_cons_of_mem _

/-- A node that replaces its parent is one of the children. -/
theorem mem_of_replacement? {kind : String} {built : List (ParseTree × Node)} {node : Node}
    (h : builder.replacement? kind built = some node) : ∃ tree, (tree, node) ∈ built := by
  unfold replacement? at h
  split at h
  · split at h
    · rename_i tree only hfilter
      obtain rfl := Option.some.inj h
      have hmem : (tree, only) ∈ built.filter (·.1.named) := by simp [hfilter]
      exact ⟨tree, List.mem_of_mem_filter hmem⟩
    · simp at h
  · simp at h

variable (builder : TreeBuilder)

/-- A tree becomes the node of its only named child, if it gives way to it, or else the node that is put
together for it. -/
theorem build_eq (tree : ParseTree) :
    builder.build tree = (builder.replacement? tree.kind (builder.buildAll tree.children)).getD
      (builder.assemble tree (builder.buildAll tree.children)) := by
  cases tree
  rfl

/-- A tree becomes the node that is put together for it, or the node of one of its children. -/
theorem build_cases (tree : ParseTree) :
    builder.build tree = builder.assemble tree (builder.buildAll tree.children) ∨
      ∃ child ∈ tree.children, builder.build tree = builder.build child := by
  rw [build_eq]
  cases hreplaced : builder.replacement? tree.kind (builder.buildAll tree.children) with
  | none => exact Or.inl rfl
  | some node =>
      obtain ⟨part, hpart⟩ := mem_of_replacement? hreplaced
      rw [buildAll_eq_map] at hpart
      obtain ⟨child, hchild, heq⟩ := List.mem_map.mp hpart
      obtain ⟨-, rfl⟩ := Prod.mk.inj heq
      exact Or.inr ⟨child, hchild, rfl⟩

/-- What holds of the nodes of trees holds of the nodes with which a list of trees is given. -/
theorem forall_mem_buildAll {P : Node → Prop} {trees : List ParseTree}
    (h : ∀ tree ∈ trees, P (builder.build tree)) :
    ∀ child ∈ builder.buildAll trees, P child.2 := by
  rw [buildAll_eq_map]
  intro child hchild
  obtain ⟨tree, htree, rfl⟩ := List.mem_map.mp hchild
  exact h tree htree

/-- **Built trees follow the layout.**  Every node that is built from a parse tree has the shape
that the layout asks for. -/
theorem everywhere_fits_build (tree : ParseTree) :
    (builder.build tree).Everywhere builder.layout.Fits := by
  induction tree using ParseTree.induction_on_children with
  | step tree ih =>
      rcases builder.build_cases tree with heq | ⟨child, hchild, heq⟩
      · rw [heq]
        exact (growing_assemble tree (builder.forall_mem_buildAll ih)).everywhere_fits
      · rw [heq]
        exact ih child hchild

/-- The nodes of a query have the right shape also after their texts were decoded. -/
theorem everywhere_fits_mapText_build (tree : ParseTree) (f : String → String) :
    ((builder.build tree).mapText f).Everywhere builder.layout.Fits :=
  (builder.everywhere_fits_build tree).mapText fun _ hfits => hfits.mapText f

end TreeBuilder

namespace Grammar

variable (grammar : Grammar)

/-- A node of a file: it stands in the tree that is built from some parse tree of some text. -/
def Builds (node : Node) : Prop :=
  ∃ source tree, node ∈ ((grammar.builder source).build tree).walk

/-- A node of a query: it stands in a built tree in whose texts the markers were put back. -/
def BuildsQuery (node : Node) : Prop :=
  ∃ source tree, node ∈
    (((grammar.builder source).build tree).mapText grammar.profile.decodeText).walk

variable {grammar}

/-- The nodes below a node of a file are nodes of the file. -/
theorem Builds.visited {node below : Node} (h : grammar.Builds node) (hbelow : below ∈ node.walk) :
    grammar.Builds below := by
  obtain ⟨source, tree, hnode⟩ := h
  exact ⟨source, tree, Node.mem_walk_trans hbelow hnode⟩

/-- The nodes below a node of a query are nodes of the query. -/
theorem BuildsQuery.visited {node below : Node} (h : grammar.BuildsQuery node)
    (hbelow : below ∈ node.walk) : grammar.BuildsQuery below := by
  obtain ⟨source, tree, hnode⟩ := h
  exact ⟨source, tree, Node.mem_walk_trans hbelow hnode⟩

/-- The nodes of a file have the shape of the layout, with all below them. -/
theorem Builds.everywhere_fits {node : Node} (h : grammar.Builds node) :
    node.Everywhere grammar.layout.Fits := by
  obtain ⟨source, tree, hnode⟩ := h
  exact (TreeBuilder.everywhere_fits_build (grammar.builder source) tree).visited hnode

/-- The nodes of a query have the shape of the layout, with all below them. -/
theorem BuildsQuery.everywhere_fits {node : Node} (h : grammar.BuildsQuery node) :
    node.Everywhere grammar.layout.Fits := by
  obtain ⟨source, tree, hnode⟩ := h
  exact (TreeBuilder.everywhere_fits_mapText_build (grammar.builder source) tree
    grammar.profile.decodeText).visited hnode

/-- The nodes of a query have only fields that the layout allows. -/
theorem BuildsQuery.everywhere_allows {node : Node} (h : grammar.BuildsQuery node) :
    node.Everywhere grammar.layout.Allows :=
  h.everywhere_fits.mono fun _ => Layout.Fits.allows

/-- In a file whose tokens are of kinds without fields, every node has all fields of its kind. -/
theorem Builds.everywhere_covers {node : Node} (h : grammar.Builds node)
    (hbare : node.Everywhere grammar.layout.BareToken) :
    node.Everywhere grammar.layout.Covers :=
  fun below hbelow => (h.everywhere_fits below hbelow).covers_of_bareToken (hbare below hbelow)

end Grammar

end StructuralSearch
