import StructuralSearch.Proofs.BuiltTexts

/-!
# Where children go

Each child of a parse tree has a seat in the node of the tree, or none (`TreeBuilder.seat?`).  Children
are attached one after the other, and a seat may be taken more than once.  What stands in a field in
the end is told by the children that have their seats there: the last one of them in a single field,
all of them in their order in a sequence (`TreeBuilder.field?_ownNode`).

This holds in layouts that leave the names `children` and `keywords` to the builder
(`Layout.ReservesNames`).

A tree that gives way to its only named child is no node at all; `TreeBuilder.standIn` is the tree that
becomes the node in its place.
-/

namespace StructuralSearch

/-- No kind declares a field of a name that is used for what stands in no field. -/
def Layout.ReservesNames (layout : Layout) : Prop :=
  ∀ entry ∈ layout.kinds, ∀ name ∈ entry.2.single ++ entry.2.multiple,
    name ≠ Node.childrenField ∧ name ≠ Node.keywordsField

instance Layout.decidableReservesNames (layout : Layout) : Decidable layout.ReservesNames :=
  inferInstanceAs (Decidable (∀ entry ∈ layout.kinds, ∀ name ∈ entry.2.single ++ entry.2.multiple,
    name ≠ Node.childrenField ∧ name ≠ Node.keywordsField))

/-- The names of the declared fields of a kind are not the reserved ones. -/
theorem Layout.ReservesNames.ne {layout : Layout} (h : layout.ReservesNames) {kind name : String}
    (hname : name ∈ (layout.fieldsOf kind).single ∨ name ∈ (layout.fieldsOf kind).multiple) :
    name ≠ Node.childrenField ∧ name ≠ Node.keywordsField := by
  unfold fieldsOf at hname
  cases hkind : layout.kind? kind with
  | none => simp [hkind] at hname
  | some fields =>
      obtain ⟨before, after, hkinds, -⟩ := List.lookup_eq_some_iff.mp hkind
      rw [hkind, Option.getD_some] at hname
      exact h (kind, fields) (by simp [hkinds]) name (List.mem_append.mpr hname)

/-- The reserved name for children is not that of a single field. -/
theorem Layout.ReservesNames.children_not_mem {layout : Layout} (h : layout.ReservesNames)
    (kind : String) : Node.childrenField ∉ (layout.fieldsOf kind).single :=
  fun hmem => (h.ne (Or.inl hmem)).1 rfl

/-- Keywords stand in no declared field. -/
theorem Layout.ReservesNames.keywords_not_mem {layout : Layout}
    (h : layout.ReservesNames) (kind : String) :
    Node.keywordsField ∉ (layout.fieldsOf kind).fieldNames := by
  simp only [KindLayout.fieldNames, List.mem_append, or_assoc]
  rintro (hsingle | hmultiple | hchildren)
  · exact (h.ne (Or.inl hsingle)).2 rfl
  · exact (h.ne (Or.inr hmultiple)).2 rfl
  · split at hchildren
    · exact absurd (List.mem_singleton.mp hchildren) (by decide)
    · exact absurd hchildren List.not_mem_nil

/-- Single fields are declared. -/
theorem KindLayout.mem_fieldNames_of_single {layout : KindLayout} {name : String}
    (h : name ∈ layout.single) : name ∈ layout.fieldNames :=
  List.mem_append_left _ (List.mem_append_left _ h)

namespace TreeBuilder

variable (builder : TreeBuilder)

/-- Whether a child is left out of the node. -/
def isDropped (child : ParseTree) : Bool :=
  child.extra || builder.profile.skippedKinds.contains child.kind

/-- The name of the field in which a child has its seat. -/
def seat? (layout : KindLayout) (child : ParseTree) : Option String :=
  if builder.isDropped child then none
  else
    match child.field.filter fun name => layout.single.contains name || layout.multiple.contains name with
    | some name => some name
    | none => if child.named && layout.hasChildren then some Node.childrenField else none

/-- The children that have their seats in the field of a name, in the order of the text. -/
def seated (tree : ParseTree) (name : String) : List ParseTree :=
  tree.children.filter fun child =>
    builder.seat? (builder.layout.fieldsOf tree.kind) child == some name

/-- What stands in a declared field before anything is put there. -/
def emptyValue (layout : KindLayout) (name : String) : FieldValue Node :=
  if layout.multiple.contains name || !layout.single.contains name then .sequence []
  else .child none

/-- What stands in a declared field in which the given children have their seats. -/
def seatedValue (layout : KindLayout) (name : String) (children : List (ParseTree × Node)) :
    FieldValue Node :=
  if layout.single.contains name then
    match children.getLast? with
    | some (child, built) => builder.singleValue child built
    | none => emptyValue layout name
  else .sequence (children.map fun child => builder.sequenceElement child.1 child.2)

variable {builder} {layout : KindLayout}

/-- A child with a seat sits in a declared field. -/
theorem mem_fieldNames_of_seat? {child : ParseTree} {name : String}
    (h : builder.seat? layout child = some name) : name ∈ layout.fieldNames := by
  unfold seat? at h
  split at h
  · cases h
  · split at h
    · rename_i declared hdeclared
      obtain rfl := Option.some.inj h
      have hname := (Option.filter_eq_some_iff.mp hdeclared).2
      simp only [Bool.or_eq_true, List.contains_iff_mem] at hname
      simp only [KindLayout.fieldNames, List.mem_append]
      exact Or.inl hname
    · split at h
      · rename_i hunfielded
        obtain rfl := Option.some.inj h
        simp only [Bool.and_eq_true] at hunfielded
        simp [KindLayout.fieldNames, hunfielded.2]
      · cases h

/-- In a single field sit the children that carry its name. -/
theorem seat?_eq_single_iff (hreserved : Node.childrenField ∉ layout.single) {name : String}
    (hname : name ∈ layout.single) (child : ParseTree) :
    builder.seat? layout child = some name ↔
      builder.isDropped child = false ∧ child.field = some name := by
  unfold seat?
  cases builder.isDropped child with
  | true => simp
  | false =>
      cases child.field with
      | none =>
          have hne : Node.childrenField ≠ name := fun heq => hreserved (heq ▸ hname)
          simp [Option.filter, hne]
      | some other =>
          by_cases hother : other = name
          · simp [Option.filter, hother, hname]
          · have hne : Node.childrenField ≠ name := fun heq => hreserved (heq ▸ hname)
            by_cases hdeclared : other ∈ layout.single ∨ other ∈ layout.multiple
            · simp [Option.filter, hdeclared, hother]
            · simp [Option.filter, hdeclared, hne, hother]

/-- A child is put where it has its seat. -/
theorem attach_eq_of_seat? (hreserved : Node.childrenField ∉ layout.single) (node : Node)
    (child : ParseTree) (built : Node) :
    builder.attach layout node (child, built) =
      match builder.seat? layout child with
      | none => node
      | some name =>
        if layout.single.contains name then node.setField name (builder.singleValue child built)
        else node.pushTo name (builder.sequenceElement child built) := by
  have hunfielded : attachUnfielded layout node child built =
      match if child.named && layout.hasChildren then some Node.childrenField else none with
      | none => node
      | some name =>
        if layout.single.contains name then node.setField name (builder.singleValue child built)
        else node.pushTo name (builder.sequenceElement child built) := by
    unfold attachUnfielded
    split
    · rename_i hnamed
      simp only [Bool.and_eq_true] at hnamed
      simp [hreserved, sequenceElement, hnamed.1]
    · rfl
  unfold attach seat? isDropped
  dsimp only
  split
  · rfl
  · cases child.field with
    | none => exact hunfielded
    | some name =>
        by_cases hsingle : name ∈ layout.single
        · simp [hsingle, Option.filter]
        · by_cases hmultiple : name ∈ layout.multiple
          · simp [hsingle, hmultiple, Option.filter]
          · simpa [hsingle, hmultiple, Option.filter] using hunfielded

/-- Setting fields to one value, name after name, changes these fields and no others. -/
theorem field?_foldl_setField (value : FieldValue Node) (names : List String) (node : Node)
    (other : String) :
    (names.foldl (fun node name => node.setField name value) node).field? other =
      if other ∈ names then some value else node.field? other := by
  induction names generalizing node with
  | nil => simp
  | cons name names ih =>
      rw [List.foldl_cons, ih, Node.field?_setField]
      by_cases hfirst : other = name
      · simp [hfirst]
      · simp [hfirst]

/-- What stands in the declared fields at the beginning. -/
theorem field?_emptyFields (hreserved : Node.childrenField ∉ layout.single) (node : Node)
    {name : String} (hname : name ∈ layout.fieldNames) :
    (emptyFields layout node).field? name = some (emptyValue layout name) := by
  have hdeclared : ∀ name, name ∈ layout.single ∨ name ∈ layout.multiple →
      (layout.multiple.foldl (fun node name => node.setField name (.sequence []))
        (layout.single.foldl (fun node name => node.setField name (.child none)) node)).field? name =
        some (emptyValue layout name) := by
    intro name hname
    rw [field?_foldl_setField, field?_foldl_setField, emptyValue]
    by_cases hmultiple : name ∈ layout.multiple
    · simp [hmultiple]
    · simp [hmultiple, hname.resolve_right hmultiple]
  simp only [KindLayout.fieldNames, List.mem_append] at hname
  unfold emptyFields
  dsimp only
  split
  · rename_i hchildren
    rw [if_pos hchildren, List.mem_singleton] at hname
    rw [Node.field?_setField]
    split
    · rename_i heq
      subst heq
      simp [emptyValue, hreserved]
    · rename_i hne
      exact hdeclared name (hname.resolve_right hne)
  · rename_i hchildren
    rw [if_neg hchildren] at hname
    exact hdeclared name (hname.resolve_right List.not_mem_nil)

/-- A field in which no child has its seat is empty. -/
theorem seatedValue_nil (layout : KindLayout) (name : String) :
    builder.seatedValue layout name [] = emptyValue layout name := by
  by_cases hsingle : name ∈ layout.single
  · simp [seatedValue, hsingle]
  · simp [seatedValue, hsingle, emptyValue]

/-- A child does not change the fields in which it has no seat. -/
theorem field?_attach_of_ne (hreserved : Node.childrenField ∉ layout.single) (node : Node)
    {child : ParseTree} {name : String} (hseat : builder.seat? layout child ≠ some name)
    (built : Node) : (builder.attach layout node (child, built)).field? name = node.field? name := by
  rw [attach_eq_of_seat? hreserved]
  cases hplace : builder.seat? layout child with
  | none => rfl
  | some place =>
      have hne : name ≠ place := fun heq => hseat (by rw [hplace, heq])
      dsimp only
      split
      · rw [Node.field?_setField, if_neg hne]
      · unfold Node.pushTo
        split
        · rw [Node.field?_setField, if_neg hne]
        · rfl

/-- A child joins those that have their seats in the same field. -/
theorem field?_attach (hreserved : Node.childrenField ∉ layout.single) {node : Node}
    {children : List (ParseTree × Node)} {name : String}
    (hfield : node.field? name = some (builder.seatedValue layout name children))
    {child : ParseTree} (hseat : builder.seat? layout child = some name) (built : Node) :
    (builder.attach layout node (child, built)).field? name =
      some (builder.seatedValue layout name (children ++ [(child, built)])) := by
  rw [attach_eq_of_seat? hreserved, hseat]
  by_cases hsingle : name ∈ layout.single
  · simp [hsingle, Node.field?_setField, seatedValue]
  · simp only [List.contains_eq_mem, hsingle, decide_false, Bool.false_eq_true, ↓reduceIte,
      Node.pushTo, hfield, seatedValue, Node.field?_setField]
    simp

/-- Children that are attached one after the other join those that have their seats there already. -/
theorem field?_foldl_attach (hreserved : Node.childrenField ∉ layout.single) {node : Node}
    {children : List (ParseTree × Node)} {name : String}
    (hfield : node.field? name = some (builder.seatedValue layout name children))
    (built : List (ParseTree × Node)) :
    (built.foldl (builder.attach layout) node).field? name =
      some (builder.seatedValue layout name
        (children ++ built.filter fun child => builder.seat? layout child.1 == some name)) := by
  induction built generalizing node children with
  | nil => simpa using hfield
  | cons child built ih =>
      obtain ⟨tree, made⟩ := child
      rw [List.foldl_cons, List.filter_cons]
      by_cases hseat : builder.seat? layout tree = some name
      · rw [ih (field?_attach hreserved hfield hseat made), if_pos (by simp [hseat]),
          List.append_assoc, List.singleton_append]
      · rw [ih ((field?_attach_of_ne hreserved node hseat made).trans hfield),
          if_neg (by simpa using hseat)]

section

variable (builder)

/-- The node that is put together for a tree. -/
def ownNode (tree : ParseTree) : Node :=
  builder.assemble tree (builder.buildAll tree.children)

/-- The element that a child gives to a sequence, with the node that is built from it. -/
def element (child : ParseTree) : Node :=
  builder.sequenceElement child (builder.build child)

/-- What stands in a declared field of the node of a tree. -/
def fieldValue (tree : ParseTree) (name : String) : FieldValue Node :=
  builder.seatedValue (builder.layout.fieldsOf tree.kind) name
    ((builder.seated tree name).map fun child => (child, builder.build child))

end

/-- What stands in a declared field before the node gets its text and its keywords. -/
theorem field?_fill {tree : ParseTree} (hreserved : builder.layout.ReservesNames) {name : String}
    (hname : name ∈ (builder.layout.fieldsOf tree.kind).fieldNames) :
    (builder.fill tree (builder.buildAll tree.children)).field? name =
      some (builder.fieldValue tree name) := by
  have hchildren := hreserved.children_not_mem tree.kind
  unfold fill fieldValue seated
  cases hkind : builder.layout.kind? tree.kind with
  | none => simp [Layout.fieldsOf, hkind, KindLayout.fieldNames] at hname
  | some layout =>
      have hof : builder.layout.fieldsOf tree.kind = layout := by simp [Layout.fieldsOf, hkind]
      rw [hof] at hname hchildren ⊢
      have hbegin : (emptyFields layout { kind := tree.kind, span := tree.span }).field? name =
          some (builder.seatedValue layout name []) := by
        rw [field?_emptyFields hchildren _ hname, seatedValue_nil]
      dsimp only
      rw [field?_foldl_attach hchildren hbegin, buildAll_eq_map, List.filter_map, List.nil_append]
      rfl

/-- There are no fields but the declared ones before the node gets its keywords. -/
theorem field?_fill_of_not_mem {tree : ParseTree} (hreserved : builder.layout.ReservesNames)
    {name : String} (hname : name ∉ (builder.layout.fieldsOf tree.kind).fieldNames)
    (built : List (ParseTree × Node)) : (builder.fill tree built).field? name = none := by
  have hchildren := hreserved.children_not_mem tree.kind
  unfold fill
  cases hkind : builder.layout.kind? tree.kind with
  | none => rfl
  | some layout =>
      have hof : builder.layout.fieldsOf tree.kind = layout := by simp [Layout.fieldsOf, hkind]
      rw [hof] at hname hchildren
      refine List.foldlRecOn (motive := fun node : Node => node.field? name = none) built _ ?_ ?_
      · refine emptyFields_induction (P := fun node => node.field? name = none) rfl ?_
        intro node other hother value _ hnode
        have hne : name ≠ other := fun heq => hname (heq ▸ hother)
        rwa [Node.field?_setField, if_neg hne]
      · rintro node hnode ⟨child, made⟩ -
        rw [field?_attach_of_ne hchildren node _ made, hnode]
        exact fun hseat => hname (mem_fieldNames_of_seat? hseat)

/-- **What stands in a field.**  A declared field of the node of a tree holds what the children give it
that have their seats there. -/
theorem field?_ownNode {tree : ParseTree} (hreserved : builder.layout.ReservesNames) {name : String}
    (hname : name ∈ (builder.layout.fieldsOf tree.kind).fieldNames) :
    (builder.ownNode tree).field? name = some (builder.fieldValue tree name) := by
  have hfill := field?_fill hreserved hname
  unfold ownNode assemble addKeywords
  split
  · exact hfill
  · rwa [Node.field?_setField, if_neg]
    rintro rfl
    exact hreserved.keywords_not_mem tree.kind hname

/-- The keywords of the node of a tree are those among the children of the tree. -/
theorem field?_keywords_ownNode (tree : ParseTree) (hreserved : builder.layout.ReservesNames) :
    (builder.ownNode tree).field? Node.keywordsField =
      match keywords false tree.children with
      | [] => none
      | words => some (.token (" ".intercalate words)) := by
  unfold ownNode assemble
  cases keywords false tree.children with
  | nil => exact field?_fill_of_not_mem hreserved (hreserved.keywords_not_mem tree.kind) _
  | cons word words => exact (Node.field?_setField _ _ _ _).trans (if_pos rfl)

/-- The node of a tree is of the kind of the tree. -/
theorem kind_ownNode (tree : ParseTree) : (builder.ownNode tree).kind = tree.kind :=
  (builder.kind_text_assemble tree).1

/-- The node of a tree has the text that is kept of the tree. -/
theorem text_ownNode (tree : ParseTree) : (builder.ownNode tree).text = builder.nodeText tree :=
  (builder.kind_text_assemble tree).2

/-! ### Trees that give way -/

mutual

/-- The tree that becomes the node of a tree: the tree itself, or what it gives way to. -/
def standIn (profile : Profile) : ParseTree → ParseTree
  | ⟨kind, named, extra, isError, isMissing, hasError, field, start, stop, children⟩ =>
    let tree := ⟨kind, named, extra, isError, isMissing, hasError, field, start, stop, children⟩
    if profile.transparentKinds.contains kind then
      match namedStandIns profile children with
      | [inner] => inner
      | _ => tree
    else tree

/-- The trees that become the nodes of the named trees of a list. -/
def namedStandIns (profile : Profile) : List ParseTree → List ParseTree
  | [] => []
  | tree :: trees =>
    if tree.named then standIn profile tree :: namedStandIns profile trees
    else namedStandIns profile trees

end

/-- The named trees of a list are replaced one by one. -/
theorem namedStandIns_eq_map (profile : Profile) (trees : List ParseTree) :
    namedStandIns profile trees = (trees.filter (·.named)).map (standIn profile) := by
  induction trees with
  | nil => rfl
  | cons tree trees ih =>
      rw [namedStandIns, List.filter_cons]
      split
      · rw [List.map_cons, ih]
      · exact ih

/-- Whether a tree gives way to its only named child: its kind is transparent, and there is exactly one.
-/
def givesWay (profile : Profile) (tree : ParseTree) : Bool :=
  profile.transparentKinds.contains tree.kind && (tree.children.filter (·.named)).length == 1

section GivingWay

variable {profile : Profile} {tree inner : ParseTree}

/-- A tree that gives way has one named child. -/
theorem exists_of_givesWay (h : givesWay profile tree = true) :
    ∃ inner, tree.children.filter (·.named) = [inner] := by
  simp only [givesWay, Bool.and_eq_true, beq_iff_eq] at h
  exact List.length_eq_one_iff.mp h.2

/-- The only named child is a child. -/
theorem mem_children_of_filter_named (h : tree.children.filter (·.named) = [inner]) :
    inner ∈ tree.children := by
  have hmem : inner ∈ tree.children.filter (·.named) := by
    rw [h]
    exact List.mem_singleton_self inner
  exact List.mem_of_mem_filter hmem

/-- A tree that gives way is replaced by what replaces its only named child. -/
theorem standIn_of_givesWay (h : givesWay profile tree = true)
    (hinner : tree.children.filter (·.named) = [inner]) :
    standIn profile tree = standIn profile inner := by
  obtain ⟨kind, named, extra, isError, isMissing, hasError, field, start, stop, children⟩ := tree
  simp only [givesWay, Bool.and_eq_true] at h
  simp only at hinner
  simp only [standIn, namedStandIns_eq_map, if_pos h.1, hinner, List.map_cons, List.map_nil]

/-- A tree that does not give way stands for itself. -/
theorem standIn_of_not_givesWay (h : givesWay profile tree = false) :
    standIn profile tree = tree := by
  obtain ⟨kind, named, extra, isError, isMissing, hasError, field, start, stop, children⟩ := tree
  simp only [givesWay, Bool.and_eq_false_iff, beq_eq_false_iff_ne] at h
  simp only [standIn, namedStandIns_eq_map]
  split
  · rename_i hkind
    split
    · rename_i only honly
      have hlength := congrArg List.length honly
      rw [List.length_map] at hlength
      exact absurd hlength (h.resolve_left fun hfalse => nomatch hkind.symm.trans hfalse)
    · rfl
  · rfl

/-- The node of a tree that gives way is the node of its only named child. -/
theorem build_of_givesWay (h : givesWay builder.profile tree = true)
    (hinner : tree.children.filter (·.named) = [inner]) :
    builder.build tree = builder.build inner := by
  have hfilter : (builder.buildAll tree.children).filter (·.1.named) =
      [(inner, builder.build inner)] := by
    rw [buildAll_eq_map, List.filter_map]
    exact congrArg (List.map _) hinner
  simp only [givesWay, Bool.and_eq_true] at h
  rw [build_eq, replacement?, if_pos h.1, hfilter]
  rfl

/-- The node of a tree that does not give way is put together. -/
theorem build_of_not_givesWay (h : givesWay builder.profile tree = false) :
    builder.build tree = builder.ownNode tree := by
  have hnone : builder.replacement? tree.kind (builder.buildAll tree.children) = none := by
    simp only [givesWay, Bool.and_eq_false_iff, beq_eq_false_iff_ne] at h
    unfold replacement?
    split
    · rename_i hkind
      rw [buildAll_eq_map, List.filter_map]
      split
      · rename_i part node hfilter
        have hlength := congrArg List.length hfilter
        rw [List.length_map] at hlength
        exact absurd hlength (h.resolve_left fun hfalse => nomatch hkind.symm.trans hfalse)
      · rfl
    · rfl
  rw [build_eq, hnone, Option.getD_none, ownNode]

end GivingWay

/-- **What becomes the node.**  The node of a tree is put together from the tree that stands in for it.
-/
theorem build_eq_ownNode (tree : ParseTree) :
    builder.build tree = builder.ownNode (standIn builder.profile tree) := by
  induction tree using ParseTree.induction_on_children with
  | step tree ih =>
      cases hway : givesWay builder.profile tree with
      | true =>
          obtain ⟨inner, hinner⟩ := exists_of_givesWay hway
          rw [standIn_of_givesWay hway hinner, build_of_givesWay hway hinner,
            ih inner (mem_children_of_filter_named hinner)]
      | false => rw [standIn_of_not_givesWay hway, build_of_not_givesWay hway]

end TreeBuilder

end StructuralSearch
