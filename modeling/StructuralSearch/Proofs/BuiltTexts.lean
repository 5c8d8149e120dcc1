import StructuralSearch.Proofs.BuiltShape

/-!
# The texts of built nodes

A node of a built tree is either put together from a parse tree and its children or a token that
became an element of a sequence (`TreeBuilder.everywhere_build`).  So what holds of both holds
everywhere in built trees.  As instances names and literals always have a text
(`Grammar.Builds.text_isSome`), and the fields of all nodes are in order.
-/

namespace StructuralSearch

namespace Node

/-- The children after an element was added to a sequence. -/
theorem mem_children_pushTo {node element child : Node} {name : String}
    (h : child ∈ (node.pushTo name element).children) :
    child = element ∨ child ∈ node.children := by
  unfold pushTo at h
  split at h
  · rename_i nodes hfield
    rcases mem_children_setField h with hnew | hbefore
    · rcases List.mem_append.mp (show child ∈ nodes ++ [element] from hnew) with hold | hlast
      · exact Or.inr (mem_children_of_field? hfield hold)
      · exact Or.inl (List.mem_singleton.mp hlast)
    · exact Or.inr hbefore
  · exact Or.inr h

end Node

namespace TreeBuilder

/-- A child of a node that is put together: it was built from a tree, or it is the token that a tree
stands for. -/
def Supplies (built : List (ParseTree × Node)) (child : Node) : Prop :=
  (∃ tree, (tree, child) ∈ built) ∨
    ∃ tree made text, (tree, made) ∈ built ∧ child = .ofToken tree.kind text tree.span

/-- More trees supply more children. -/
theorem Supplies.mono {built more : List (ParseTree × Node)} {child : Node}
    (h : Supplies built child) (hmore : built ⊆ more) : Supplies more child := by
  rcases h with ⟨tree, hmem⟩ | ⟨tree, made, text, hmem, htoken⟩
  · exact Or.inl ⟨tree, hmore hmem⟩
  · exact Or.inr ⟨tree, made, text, hmore hmem, htoken⟩

/-- With its empty fields a node has no more children than before. -/
theorem mem_children_emptyFields {layout : KindLayout} {node child : Node}
    (h : child ∈ (emptyFields layout node).children) : child ∈ node.children := by
  have hall : ∀ child ∈ (emptyFields layout node).children, child ∈ node.children := by
    refine emptyFields_induction (P := fun filled => ∀ child ∈ filled.children,
      child ∈ node.children) (fun _ hchild => hchild) ?_
    intro filled name _ value hempty hfilled child hchild
    rcases Node.mem_children_setField hchild with hnew | hbefore
    · simp [hempty] at hnew
    · exact hfilled child hbefore
  exact hall child h

section Attaching

variable {builder : TreeBuilder} {layout : KindLayout} {node : Node}

/-- A child that stands in no declared field is a child or nothing. -/
theorem mem_children_attachUnfielded {tree : ParseTree} {built child : Node}
    (h : child ∈ (attachUnfielded layout node tree built).children) :
    child = built ∨ child ∈ node.children := by
  unfold attachUnfielded at h
  split at h
  · exact Node.mem_children_pushTo h
  · exact Or.inr h

/-- What is attached to a node becomes a child, or a token does, or nothing. -/
theorem mem_children_attach {tree : ParseTree} {built child : Node}
    (h : child ∈ (builder.attach layout node (tree, built)).children) :
    Supplies [(tree, built)] child ∨ child ∈ node.children := by
  have hbuilt : Supplies [(tree, built)] built := Or.inl ⟨tree, List.mem_singleton_self _⟩
  have hunfielded : child ∈ (attachUnfielded layout node tree built).children →
      Supplies [(tree, built)] child ∨ child ∈ node.children := by
    intro hmem
    rcases mem_children_attachUnfielded hmem with rfl | hbefore
    · exact Or.inl hbuilt
    · exact Or.inr hbefore
  simp only [attach] at h
  split at h
  · exact Or.inr h
  · split at h
    · rename_i name _
      split at h
      · rcases Node.mem_children_setField h with hnew | hbefore
        · unfold singleValue at hnew
          split at hnew
          · obtain rfl : child = built := by simpa [FieldValue.nodes] using hnew
            exact Or.inl hbuilt
          · simp [FieldValue.nodes] at hnew
        · exact Or.inr hbefore
      · split at h
        · rcases Node.mem_children_pushTo h with rfl | hbefore
          · unfold sequenceElement
            split
            · exact Or.inl hbuilt
            · exact Or.inl (Or.inr ⟨tree, built, _, List.mem_singleton_self _, rfl⟩)
          · exact Or.inr hbefore
        · exact hunfielded h
    · exact hunfielded h

end Attaching

variable (builder : TreeBuilder)

/-- The children of a node that was filled were built, or they are tokens. -/
theorem supplies_fill {tree : ParseTree} {built : List (ParseTree × Node)} :
    ∀ child ∈ (builder.fill tree built).children, Supplies built child := by
  simp only [fill]
  split
  · rename_i layout _
    refine List.foldlRecOn (motive := fun node : Node =>
      ∀ child ∈ node.children, Supplies built child) built _ ?_ ?_
    · intro child hchild
      have hnone := mem_children_emptyFields hchild
      simp [Node.children] at hnone
    · rintro node hnode ⟨part, made⟩ hpart child hchild
      rcases mem_children_attach hchild with hnew | hbefore
      · exact hnew.mono (by simpa using hpart)
      · exact hnode child hbefore
  · simp [Node.children]

/-- A text and keywords give a node no children. -/
theorem supplies_assemble {tree : ParseTree} {built : List (ParseTree × Node)} :
    ∀ child ∈ (builder.assemble tree built).children, Supplies built child := by
  intro child hchild
  unfold assemble addKeywords at hchild
  split at hchild
  · exact builder.supplies_fill child hchild
  · rcases Node.mem_children_setField hchild with hnew | hbefore
    · simp [FieldValue.nodes] at hnew
    · exact builder.supplies_fill child hbefore

/-- **What built trees consist of.**  A property of tokens and of the nodes that are put together
from the trees below them holds everywhere in a built tree. -/
theorem everywhere_build {P : Node → Prop} (htoken : ∀ kind text span, P (.ofToken kind text span))
    (hassemble : ∀ tree, P (builder.assemble tree (builder.buildAll tree.children)))
    (tree : ParseTree) : (builder.build tree).Everywhere P := by
  induction tree using ParseTree.induction_on_children with
  | step tree ih =>
      rcases builder.build_cases tree with heq | ⟨child, hchild, heq⟩
      · rw [heq]
        refine Node.everywhere_of_children (hassemble tree) fun child hchild => ?_
        rcases builder.supplies_assemble child hchild with
          ⟨part, hmem⟩ | ⟨part, made, text, -, rfl⟩
        · exact builder.forall_mem_buildAll ih (part, child) hmem
        · refine Node.everywhere_of_children (htoken part.kind text part.span) ?_
          simp [Node.ofToken, Node.children]
      · rw [heq]
        exact ih child hchild

/-- The invariant of the making of nodes holds of a node that was put together. -/
theorem growing_assemble_buildAll (tree : ParseTree) :
    Growing builder.layout tree.kind (builder.layout.fieldsOf tree.kind).fieldNames
      (builder.assemble tree (builder.buildAll tree.children)) :=
  growing_assemble tree (builder.forall_mem_buildAll fun child _ =>
    builder.everywhere_fits_build child)

/-- A node that was put together is of the kind of its tree and has its text. -/
theorem kind_text_assemble (tree : ParseTree) :
    let node := builder.assemble tree (builder.buildAll tree.children)
    node.kind = tree.kind ∧ node.text = builder.nodeText tree := by
  refine ⟨(builder.growing_assemble_buildAll tree).kind_eq, ?_⟩
  unfold assemble addKeywords
  split <;> rfl

end TreeBuilder

/-- Numbers keep their texts. -/
theorem Profile.keepsText_of_isNumber {profile : Profile} {node : Node}
    (h : profile.isNumber node) : profile.keepsText node.kind = true := by
  have hkind : profile.numberKinds.contains node.kind = true := h
  rw [keepsText, hkind, Bool.or_true, Bool.true_or]

/-- Names, literals and free text of a file have a text. -/
theorem Grammar.Builds.text_isSome {grammar : Grammar} {node : Node} (h : grammar.Builds node)
    (hkeeps : grammar.profile.keepsText node.kind = true) : node.text.isSome := by
  obtain ⟨source, tree, hnode⟩ := h
  have hall : ((grammar.builder source).build tree).Everywhere fun node =>
      grammar.profile.keepsText node.kind = true → node.text.isSome := by
    refine (grammar.builder source).everywhere_build ?_ ?_ tree
    · intro kind text span _
      rfl
    · intro tree hkind
      obtain ⟨hkind_eq, htext⟩ := (grammar.builder source).kind_text_assemble tree
      rw [hkind_eq] at hkind
      rw [htext, TreeBuilder.nodeText, if_pos]
      · rfl
      · rw [show (grammar.builder source).profile = grammar.profile from rfl, hkind, Bool.or_true]
  exact hall node hnode hkeeps

/-- The fields of the nodes of a file stand in the order of their names, and no name occurs twice. -/
theorem Grammar.Builds.everywhere_fieldsInOrder {grammar : Grammar} {node : Node}
    (h : grammar.Builds node) : node.Everywhere Node.FieldsInOrder := by
  obtain ⟨source, tree, hnode⟩ := h
  exact ((grammar.builder source).everywhere_build (fun _ _ _ => .nil)
    (fun tree => ((grammar.builder source).growing_assemble_buildAll tree).inOrder) tree).visited
    hnode

end StructuralSearch
