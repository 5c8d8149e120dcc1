import StructuralSearch.Proofs.BuiltFields
import StructuralSearch.Proofs.PlainQueries

/-!
# Where tokens stand

What exact mode knows of the tokens of a tree is what its node keeps of them.  A token in a single field
is known by its text, a token in a sequence by its place among the elements, a word or a star by its
place among the words, and a token that stands in a field ahead of all operands leaves a mark among the
words.  All other tokens are layout.

So trees whose nodes face each other in an exact match (`Grammar.Faces`) have the same tokens as far as
they are kept (`Grammar.SameTokens`): this is `Grammar.sameTokens_of_exact`.  Tokens that are not kept
may stand elsewhere, as the colon does in `:1` and `1:` (`moved_tokens_accepted`).
-/

namespace StructuralSearch

/-- The children of a tree that are no extras. -/
def ParseTree.visible (tree : ParseTree) : List ParseTree :=
  tree.children.filter (!·.extra)

/-! ### Words -/

/-- Words without blanks are told by the text into which they are joined. -/
theorem eq_of_intercalate_eq {words words' : List String} (hsome : words ≠ []) (hsome' : words' ≠ [])
    (hblank : ∀ word ∈ words, ' ' ∉ word.toList) (hblank' : ∀ word ∈ words', ' ' ∉ word.toList)
    (h : " ".intercalate words = " ".intercalate words') : words = words' := by
  have hsplit : ∀ {words : List String}, words ≠ [] → (∀ word ∈ words, ' ' ∉ word.toList) →
      (" ".intercalate words).toList.splitOn ' ' = words.map String.toList := by
    intro words hsome hblank
    rw [String.toList_intercalate]
    refine List.splitOn_intercalate ' ' (fun letters hletters => ?_) (by simpa using hsome)
    obtain ⟨word, hword, rfl⟩ := List.mem_map.mp hletters
    exact hblank word hword
  have hletters := hsplit hsome hblank
  rw [h, hsplit hsome' hblank'] at hletters
  exact (List.map_injective_iff.mpr (fun _ _ => String.toList_injective) hletters).symm

namespace TreeBuilder

/-- No keyword holds a blank. -/
theorem blank_not_mem_of_isKeyword {kind : String} (h : isKeyword kind = true) :
    ' ' ∉ kind.toList := by
  intro hblank
  simp only [isKeyword, Bool.or_eq_true, beq_iff_eq, Bool.and_eq_true, List.all_eq_true] at h
  rcases h with rfl | ⟨-, hall⟩
  · exact absurd hblank (by decide)
  · exact absurd (hall _ hblank) (by decide)

/-- The keywords of a node are words without blanks. -/
theorem blank_not_mem_of_mem_keywords {seenNamed : Bool} {trees : List ParseTree} {word : String}
    (h : word ∈ keywords seenNamed trees) : ' ' ∉ word.toList := by
  induction trees generalizing seenNamed with
  | nil => exact absurd h List.not_mem_nil
  | cons tree trees ih =>
      rw [keywords] at h
      split at h
      · exact ih h
      · split at h
        · exact ih h
        · split at h
          · split at h
            · rename_i hword
              rcases List.mem_cons.mp h with rfl | h
              · exact blank_not_mem_of_isKeyword hword
              · exact ih h
            · exact ih h
          · split at h
            · rcases List.mem_cons.mp h with rfl | h
              · decide
              · exact ih h
            · exact ih h

/-- The number of tokens that stand in fields ahead of all named children, if there are some. -/
def tokensAhead : List ParseTree → Nat
  | [] => 0
  | tree :: trees =>
    if tree.extra then tokensAhead trees
    else if tree.named then 0
    else (if tree.field.isSome && trees.any (·.named) then 1 else 0) + tokensAhead trees

/-- Behind a named child no token is marked. -/
theorem count_keywords_true {trees : List ParseTree}
    (hwords : ∀ tree ∈ trees, tree.kind ≠ Node.operatorFirst) :
    (keywords true trees).count Node.operatorFirst = 0 := by
  induction trees with
  | nil => rfl
  | cons tree trees ih =>
      obtain ⟨hfirst, hrest⟩ := List.forall_mem_cons.mp hwords
      rw [keywords]
      split
      · exact ih hrest
      · split
        · exact ih hrest
        · split
          · split
            · rw [List.count_cons_of_ne hfirst, ih hrest]
            · exact ih hrest
          · exact ih hrest

/-- The marks among the keywords count the tokens that stand in fields ahead of all named children. -/
theorem count_keywords {trees : List ParseTree}
    (hwords : ∀ tree ∈ trees, tree.kind ≠ Node.operatorFirst) :
    (keywords false trees).count Node.operatorFirst = tokensAhead trees := by
  induction trees with
  | nil => rfl
  | cons tree trees ih =>
      obtain ⟨hfirst, hrest⟩ := List.forall_mem_cons.mp hwords
      rw [keywords, tokensAhead]
      split
      · exact ih hrest
      · split
        · exact count_keywords_true hrest
        · cases tree.field with
          | none =>
              dsimp only
              split
              · rw [List.count_cons_of_ne hfirst, ih hrest]
                simp
              · rw [ih hrest]
                simp
          | some name =>
              cases hnamed : trees.any (·.named) with
              | true => simp [ih hrest, Nat.add_comm]
              | false => simp [ih hrest]

variable (builder : TreeBuilder)

/-- What is to be seen of a child in a single field: the text of a token, or only that there is an
operand. -/
def shown (child : ParseTree) : Option String :=
  if child.named then none else some (builder.rawText child)

/-- The child that a single field holds in the end. -/
def holder? (tree : ParseTree) (name : String) : Option ParseTree :=
  (builder.seated tree name).getLast?

/-- The children in a sequence that take part in comparisons. -/
def comparable (tree : ParseTree) (name : String) : List ParseTree :=
  (builder.seated tree name).filter fun child => builder.profile.isComparable (builder.element child)

end TreeBuilder

namespace FieldValue

/-- What is to be seen of the value of a single field: nothing, an operand, or the text of a token. -/
def seen {α : Type} : FieldValue α → Option (Option String)
  | token text => some (some text)
  | child (some _) => some none
  | _ => none

end FieldValue

namespace Criteria

variable {criteria : Criteria} {query file : Node}

/-- If two nodes match that are compared by their fields, they agree apart from their children. -/
theorem agreeOutside_of_verdict (h : criteria.verdict query file = .ok true)
    (halone : ¬ criteria.DecidedAlone query) : AgreeOutside query file :=
  ((criteria.verdict_eq_true_iff.mp h).resolve_left fun hsettled =>
    halone (criteria.decidedAlone_of_settled hsettled)).2.1

/-- Values that match show the same of a single field. -/
theorem seen_eq_of_valueVerdict {value actual : FieldValue Node}
    (htoken : ∀ text, value ≠ .token text) (h : criteria.valueVerdict value actual = .ok true) :
    actual.seen = value.seen := by
  unfold valueVerdict validateValue at h
  split at h
  · rfl
  · rfl
  · rfl
  · exact absurd rfl (htoken _)
  · cases h

/-- In exact mode everything but a token is compared below. -/
theorem isCompared_of_exact (hexact : criteria.mode = .exact) {value : FieldValue Node}
    (htoken : ∀ text, value ≠ .token text) : criteria.isCompared value = true := by
  cases value with
  | token text => exact absurd rfl (htoken text)
  | child node => simp [isCompared, hexact]
  | sequence nodes => simp [isCompared, hexact]

/-- If two nodes match in exact mode, the file shows in each field what the query shows there. -/
theorem seen_eq_of_verdict (hexact : criteria.mode = .exact)
    (h : criteria.verdict query file = .ok true) (halone : ¬ criteria.DecidedAlone query)
    {name : String} {value actual : FieldValue Node} (hvalue : query.field? name = some value)
    (hactual : file.field? name = some actual) : actual.seen = value.seen := by
  have hmem := Node.mem_fields_of_field? hvalue
  by_cases htoken : ∃ text, value = .token text
  · obtain ⟨text, rfl⟩ := htoken
    have hsame := (agreeOutside_of_verdict h halone).tokens name text hmem
    rw [hactual] at hsame
    rw [Option.some.inj hsame]
  · rw [not_exists] at htoken
    exact seen_eq_of_valueVerdict htoken
      (valueVerdict_of_verdict h halone hmem (isCompared_of_exact hexact htoken) hactual)

end Criteria

namespace Grammar

/-- Whether a node of a query is compared with other nodes by its fields. -/
def ComparedByFields (grammar : Grammar) (node : Node) : Prop :=
  ¬ Criteria.DecidedAlone ⟨grammar.profile, .exact, false⟩ node

/-- The trees that face each other when a query is matched with a file in exact mode: what the two trees
give way to, and where such trees are compared by their fields, the operands in the same single field
and those at the same place of a sequence. -/
inductive Faces (grammar : Grammar) (source source' : String) (query file : ParseTree) :
    ParseTree → ParseTree → Prop
  | root : Faces grammar source source' query file
      (TreeBuilder.standIn grammar.profile query) (TreeBuilder.standIn grammar.profile file)
  | single {tree tree' child child' : ParseTree} {name : String}
      (above : Faces grammar source source' query file tree tree')
      (hfields : grammar.ComparedByFields ((grammar.builder source).ownNode tree))
      (hname : name ∈ (grammar.layout.fieldsOf tree.kind).single)
      (hchild : (grammar.builder source).holder? tree name = some child)
      (hchild' : (grammar.builder source').holder? tree' name = some child')
      (hnamed : child.named = true) (hnamed' : child'.named = true) :
      Faces grammar source source' query file
        (TreeBuilder.standIn grammar.profile child) (TreeBuilder.standIn grammar.profile child')
  | element {tree tree' child child' : ParseTree} {name : String} {place : Nat}
      (above : Faces grammar source source' query file tree tree')
      (hfields : grammar.ComparedByFields ((grammar.builder source).ownNode tree))
      (hname : name ∈ (grammar.layout.fieldsOf tree.kind).fieldNames)
      (hsequence : name ∉ (grammar.layout.fieldsOf tree.kind).single)
      (hchild : ((grammar.builder source).comparable tree name)[place]? = some child)
      (hchild' : ((grammar.builder source').comparable tree' name)[place]? = some child')
      (hnamed : child.named = true) (hnamed' : child'.named = true) :
      Faces grammar source source' query file
        (TreeBuilder.standIn grammar.profile child) (TreeBuilder.standIn grammar.profile child')

/-- Two elements of sequences are of one kind, and they have one text if they are tokens; nothing is
said where the element of the query is not compared by its fields. -/
def SameElement (grammar : Grammar) (source source' : String) (child child' : ParseTree) : Prop :=
  grammar.ComparedByFields ((grammar.builder source).element child) →
    ((grammar.builder source').element child').kind = ((grammar.builder source).element child).kind ∧
    (child.named = false → child'.named = false →
      (grammar.builder source').rawText child' = (grammar.builder source).rawText child)

/-- A tree consists of tokens, apart from extras, and no kind of these holds a blank. -/
structure IsOfTokens (tree : ParseTree) : Prop where
  occupied : tree.visible ≠ []
  named : ∀ child ∈ tree.visible, child.named = false
  blank : ∀ kind ∈ tree.visible.map (·.kind), ' ' ∉ kind.toList

/-- The text of a tree of tokens is made of their kinds, unless the tree keeps its own text. -/
theorem IsOfTokens.nodeText {tree : ParseTree} (h : IsOfTokens tree) (builder : TreeBuilder)
    (hkeeps : builder.profile.keepsText tree.kind = false) :
    builder.nodeText tree = some (" ".intercalate (tree.visible.map (·.kind))) := by
  have hleaf : tree.children.isEmpty = false := by
    rw [List.isEmpty_eq_false_iff]
    exact fun hnone => h.occupied (by simp [ParseTree.visible, hnone])
  have hnamed : tree.visible.all (!·.named) = true :=
    List.all_eq_true.mpr fun child hchild => by simp [h.named child hchild]
  unfold ParseTree.visible at hnamed ⊢
  simp only [TreeBuilder.nodeText, hleaf, hkeeps, hnamed, Bool.or_self, Bool.false_eq_true, ↓reduceIte]

/-- A node that is compared by its fields is of a kind that does not keep its text. -/
theorem keepsText_of_comparedByFields {grammar : Grammar} {node : Node}
    (h : grammar.ComparedByFields node) : grammar.profile.keepsText node.kind = false := by
  unfold ComparedByFields Criteria.DecidedAlone at h
  simp only [not_or, Profile.isIdentifier, Profile.isString, Profile.isText, Profile.isNumber,
    Bool.not_eq_true] at h
  obtain ⟨-, hidentifier, hstring, htext, hnumber⟩ := h
  rw [Profile.keepsText, hidentifier, hstring, htext, hnumber]
  rfl

/-- Two trees have the same tokens as far as their nodes keep them. -/
structure SameTokens (grammar : Grammar) (source source' : String) (tree tree' : ParseTree) :
    Prop where
  kind : tree'.kind = tree.kind
  /-- the words and stars come in the same order, with the marks among them -/
  words : TreeBuilder.keywords false tree'.children = TreeBuilder.keywords false tree.children
  /-- as many tokens stand in fields ahead of all operands, if no word may be taken for a mark -/
  ahead : (∀ child ∈ tree.children, child.kind ≠ Node.operatorFirst) →
    (∀ child ∈ tree'.children, child.kind ≠ Node.operatorFirst) →
    TreeBuilder.tokensAhead tree'.children = TreeBuilder.tokensAhead tree.children
  /-- each single field has the same token, or some operand, or nothing in both -/
  single : ∀ name ∈ (grammar.layout.fieldsOf tree.kind).single,
    ((grammar.builder source').holder? tree' name).map (grammar.builder source').shown =
      ((grammar.builder source).holder? tree name).map (grammar.builder source).shown
  /-- the elements of each sequence are the same one by one, as far as they are tokens -/
  sequence : ∀ name ∈ (grammar.layout.fieldsOf tree.kind).fieldNames,
    name ∉ (grammar.layout.fieldsOf tree.kind).single →
    List.Forall₂ (grammar.SameElement source source')
      ((grammar.builder source).comparable tree name)
      ((grammar.builder source').comparable tree' name)
  /-- trees of tokens alone have the same tokens, if no kind of these holds a blank -/
  tokens : IsOfTokens tree → IsOfTokens tree' →
    tree'.visible.map (·.kind) = tree.visible.map (·.kind)

end Grammar

/-! ### What the node of a tree says of its tokens -/

namespace TreeBuilder

variable {builder : TreeBuilder}

/-- What is to be seen in a single field is what its last child shows. -/
theorem seen_fieldValue {tree : ParseTree} {name : String}
    (hname : name ∈ (builder.layout.fieldsOf tree.kind).single) :
    (builder.fieldValue tree name).seen = (builder.holder? tree name).map builder.shown := by
  unfold fieldValue seatedValue holder?
  rw [if_pos (List.contains_iff_mem.mpr hname), List.getLast?_map]
  cases (builder.seated tree name).getLast? with
  | none =>
      simp only [Option.map_none, emptyValue]
      split <;> rfl
  | some child =>
      simp only [Option.map_some, singleValue, shown]
      split <;> rfl

/-- A single field with an operand holds the node of the operand. -/
theorem fieldValue_of_holder? {tree child : ParseTree} {name : String}
    (hname : name ∈ (builder.layout.fieldsOf tree.kind).single)
    (hchild : builder.holder? tree name = some child) (hnamed : child.named = true) :
    builder.fieldValue tree name = .child (some (builder.build child)) := by
  unfold holder? at hchild
  unfold fieldValue seatedValue
  rw [if_pos (List.contains_iff_mem.mpr hname), List.getLast?_map, hchild]
  simp [singleValue, hnamed]

/-- A sequence holds the elements that the children give it. -/
theorem fieldValue_of_sequence {tree : ParseTree} {name : String}
    (hname : name ∉ (builder.layout.fieldsOf tree.kind).single) :
    builder.fieldValue tree name = .sequence ((builder.seated tree name).map builder.element) := by
  unfold fieldValue seatedValue
  rw [if_neg (by simpa using hname), List.map_map]
  rfl

/-- The element of a named child is the node of the tree that stands in for it. -/
theorem element_of_named {child : ParseTree} (hnamed : child.named = true) :
    builder.element child = builder.ownNode (standIn builder.profile child) := by
  rw [element, sequenceElement, if_pos hnamed, build_eq_ownNode]

end TreeBuilder

/-! ### Exact matches -/

namespace Grammar

variable {grammar : Grammar} {source source' : String} {caseInsensitive : Bool}

/-- The verdict on two nodes in exact mode. -/
abbrev Accepts (grammar : Grammar) (caseInsensitive : Bool) (query file : Node) : Prop :=
  Criteria.verdict ⟨grammar.profile, .exact, caseInsensitive⟩ query file = .ok true

/-- Elements that match are the same as far as they are tokens. -/
theorem sameElement_of_accepts {child child' : ParseTree}
    (h : grammar.Accepts caseInsensitive ((grammar.builder source).element child)
      ((grammar.builder source').element child')) :
    grammar.SameElement source source' child child' := by
  intro hfields
  have hagree := Criteria.agreeOutside_of_verdict h hfields
  refine ⟨hagree.kind.symm, fun hnamed hnamed' => ?_⟩
  refine (hagree.text _ _ ?_ ?_).symm
  · simp [TreeBuilder.element, TreeBuilder.sequenceElement, hnamed, Node.ofToken]
  · simp [TreeBuilder.element, TreeBuilder.sequenceElement, hnamed', Node.ofToken]

section Pair

variable {tree tree' : ParseTree}
  (hfields : grammar.ComparedByFields ((grammar.builder source).ownNode tree))
  (h : grammar.Accepts caseInsensitive ((grammar.builder source).ownNode tree)
    ((grammar.builder source').ownNode tree'))

include hfields h

/-- Trees whose nodes match are of one kind. -/
theorem kind_eq_of_accepts : tree'.kind = tree.kind := by
  have hkind := (Criteria.agreeOutside_of_verdict h hfields).kind
  rw [TreeBuilder.kind_ownNode, TreeBuilder.kind_ownNode] at hkind
  exact hkind.symm

/-- What stands in a field of the two nodes. -/
theorem fields_of_accepts {name : String} (hreserved : grammar.layout.ReservesNames)
    (hname : name ∈ (grammar.layout.fieldsOf tree.kind).fieldNames) :
    ((grammar.builder source).ownNode tree).field? name =
        some ((grammar.builder source).fieldValue tree name) ∧
      ((grammar.builder source').ownNode tree').field? name =
        some ((grammar.builder source').fieldValue tree' name) := by
  refine ⟨TreeBuilder.field?_ownNode hreserved hname, TreeBuilder.field?_ownNode hreserved ?_⟩
  rw [kind_eq_of_accepts hfields h]
  exact hname

/-- Trees whose nodes match have the same words, with the marks among them. -/
theorem words_eq_of_accepts (hreserved : grammar.layout.ReservesNames) :
    TreeBuilder.keywords false tree'.children = TreeBuilder.keywords false tree.children := by
  have hagree := Criteria.agreeOutside_of_verdict h hfields
  have hquery := (grammar.builder source).field?_keywords_ownNode tree hreserved
  have hfile := (grammar.builder source').field?_keywords_ownNode tree' hreserved
  cases hwords : TreeBuilder.keywords false tree.children with
  | nil =>
      cases hwords' : TreeBuilder.keywords false tree'.children with
      | nil => rfl
      | cons word words =>
          rw [hwords] at hquery
          rw [hwords'] at hfile
          have hsome := hagree.keywords (by rw [hfile]; rfl)
          rw [hquery] at hsome
          cases hsome
  | cons word words =>
      rw [hwords] at hquery
      have htoken := hagree.tokens _ _ (Node.mem_fields_of_field? hquery)
      cases hwords' : TreeBuilder.keywords false tree'.children with
      | nil =>
          rw [hwords', htoken] at hfile
          cases hfile
      | cons word' words' =>
          rw [hwords', htoken] at hfile
          have htext := FieldValue.token.inj (Option.some.inj hfile)
          rw [← hwords, ← hwords'] at htext ⊢
          exact (eq_of_intercalate_eq (by simp [hwords]) (by simp [hwords'])
            (fun _ => TreeBuilder.blank_not_mem_of_mem_keywords)
            (fun _ => TreeBuilder.blank_not_mem_of_mem_keywords) htext).symm

/-- The comparable elements of a sequence match one by one. -/
theorem forall₂_of_accepts (hreserved : grammar.layout.ReservesNames)
    (hplain : ((grammar.builder source).ownNode tree).Plain) {name : String}
    (hname : name ∈ (grammar.layout.fieldsOf tree.kind).fieldNames)
    (hsequence : name ∉ (grammar.layout.fieldsOf tree.kind).single) :
    List.Forall₂ (fun child child' => grammar.Accepts caseInsensitive
        ((grammar.builder source).element child) ((grammar.builder source').element child'))
      ((grammar.builder source).comparable tree name)
      ((grammar.builder source').comparable tree' name) := by
  obtain ⟨hvalue, hactual⟩ := fields_of_accepts hfields h hreserved hname
  have hsequence' : name ∉ (grammar.layout.fieldsOf tree'.kind).single := by
    rwa [kind_eq_of_accepts hfields h]
  rw [TreeBuilder.fieldValue_of_sequence hsequence] at hvalue
  rw [TreeBuilder.fieldValue_of_sequence hsequence'] at hactual
  have hmem := Node.mem_fields_of_field? hvalue
  have hmatch := Criteria.valueVerdict_of_verdict h hfields hmem
    (Criteria.isCompared_of_exact rfl nofun) hactual
  have hplaces := Criteria.forall₂_of_exact (hplain.of_mem_sequence hmem) rfl hmatch
  rw [List.filter_map, List.filter_map, List.forall₂_map_left_iff,
    List.forall₂_map_right_iff] at hplaces
  exact hplaces

/-- Trees whose nodes match in exact mode have the same tokens. -/
theorem sameTokens_of_accepts (hreserved : grammar.layout.ReservesNames)
    (hplain : ((grammar.builder source).ownNode tree).Plain) :
    grammar.SameTokens source source' tree tree' where
  kind := kind_eq_of_accepts hfields h
  words := words_eq_of_accepts hfields h hreserved
  ahead hquery hfile := by
    rw [← TreeBuilder.count_keywords hquery, ← TreeBuilder.count_keywords hfile,
      words_eq_of_accepts hfields h hreserved]
  single name hname := by
    obtain ⟨hvalue, hactual⟩ := fields_of_accepts hfields h hreserved
      (KindLayout.mem_fieldNames_of_single hname)
    have hseen := Criteria.seen_eq_of_verdict rfl h hfields hvalue hactual
    have hname' : name ∈ (grammar.layout.fieldsOf tree'.kind).single := by
      rwa [kind_eq_of_accepts hfields h]
    rwa [TreeBuilder.seen_fieldValue hname', TreeBuilder.seen_fieldValue hname] at hseen
  sequence name hname hsequence :=
    (forall₂_of_accepts hfields h hreserved hplain hname hsequence).imp
      fun _ _ => sameElement_of_accepts
  tokens hquery hfile := by
    have hkeeps := keepsText_of_comparedByFields hfields
    rw [TreeBuilder.kind_ownNode] at hkeeps
    have hkeeps' : grammar.profile.keepsText tree'.kind = false := by
      rwa [kind_eq_of_accepts hfields h]
    have htext := (Criteria.agreeOutside_of_verdict h hfields).text
      (" ".intercalate (tree.visible.map (·.kind))) (" ".intercalate (tree'.visible.map (·.kind)))
      ((TreeBuilder.text_ownNode tree).trans (hquery.nodeText _ hkeeps))
      ((TreeBuilder.text_ownNode tree').trans (hfile.nodeText _ hkeeps'))
    exact eq_of_intercalate_eq (by simpa using hfile.occupied) (by simpa using hquery.occupied)
      hfile.blank hquery.blank htext.symm

end Pair

/-- The nodes of trees that face each other match.  The induction is on the way down to them. -/
theorem accepts_of_faces (hreserved : grammar.layout.ReservesNames) {query file : ParseTree}
    (hplain : ((grammar.builder source).build query).Plain)
    (h : grammar.Accepts caseInsensitive ((grammar.builder source).build query)
      ((grammar.builder source').build file))
    {tree tree' : ParseTree} (hfaces : grammar.Faces source source' query file tree tree') :
    ((grammar.builder source).ownNode tree).Plain ∧
      grammar.Accepts caseInsensitive ((grammar.builder source).ownNode tree)
        ((grammar.builder source').ownNode tree') := by
  induction hfaces with
  | root =>
      rw [TreeBuilder.build_eq_ownNode] at hplain h
      rw [TreeBuilder.build_eq_ownNode] at h
      exact ⟨hplain, h⟩
  | @single tree tree' child child' name _ hfields hname hchild hchild' hnamed hnamed' ih =>
      obtain ⟨hplain, hmatch⟩ := ih
      have hname' : name ∈ (grammar.layout.fieldsOf tree'.kind).single := by
        rwa [kind_eq_of_accepts hfields hmatch]
      obtain ⟨hvalue, hactual⟩ := fields_of_accepts hfields hmatch hreserved
        (KindLayout.mem_fieldNames_of_single hname)
      rw [TreeBuilder.fieldValue_of_holder? hname hchild hnamed] at hvalue
      rw [TreeBuilder.fieldValue_of_holder? hname' hchild' hnamed'] at hactual
      have hmem := Node.mem_fields_of_field? hvalue
      have hbelow := Criteria.valueVerdict_of_verdict hmatch hfields hmem
        (Criteria.isCompared_of_exact rfl nofun) hactual
      have hchildPlain := hplain.child (Node.mem_children_of_field? hvalue (List.mem_singleton_self _))
      rw [TreeBuilder.build_eq_ownNode] at hbelow hchildPlain
      rw [TreeBuilder.build_eq_ownNode] at hbelow
      exact ⟨hchildPlain, hbelow⟩
  | @element tree tree' child child' name place _ hfields hname hsequence hchild hchild' hnamed
      hnamed' ih =>
      obtain ⟨hplain, hmatch⟩ := ih
      have hplaces := forall₂_of_accepts hfields hmatch hreserved hplain hname hsequence
      have hbelow := Sequence.rel_of_forall₂ hplaces hchild hchild'
      have hvalue := (fields_of_accepts hfields hmatch hreserved hname).1
      rw [TreeBuilder.fieldValue_of_sequence hsequence] at hvalue
      have hseated := List.mem_of_mem_filter (List.mem_of_getElem? hchild)
      have hchildPlain := hplain.child
        (Node.mem_children_of_field? hvalue (List.mem_map_of_mem hseated))
      rw [TreeBuilder.element_of_named hnamed] at hchildPlain
      rw [TreeBuilder.element_of_named hnamed, TreeBuilder.element_of_named hnamed'] at hbelow
      exact ⟨hchildPlain, hbelow⟩

/-- **Exact matches keep the tokens in their places.**  If exact mode accepts the node of a tree for a
query without wildcards, then all trees that face each other and are compared by their fields have the
same tokens, as far as these are kept: words and stars in their order, the tokens in single fields,
whether they stand ahead of the operands, those among the elements of sequences, and all of them where
there are no operands. -/
theorem sameTokens_of_exact (hreserved : grammar.layout.ReservesNames) {query file : ParseTree}
    (hplain : ((grammar.builder source).build query).Plain) {tally : Tally}
    (h : (Criteria.validate ⟨grammar.profile, .exact, caseInsensitive⟩
      ((grammar.builder source).build query) ((grammar.builder source').build file) tally).1 =
      .ok true) :
    ∀ tree tree', grammar.Faces source source' query file tree tree' →
      grammar.ComparedByFields ((grammar.builder source).ownNode tree) →
      grammar.SameTokens source source' tree tree' := by
  intro tree tree' hfaces hfields
  rw [Criteria.validate_fst_eq] at h
  obtain ⟨htree, hmatch⟩ := accepts_of_faces hreserved hplain h hfaces
  exact sameTokens_of_accepts hfields hmatch hreserved htree

end Grammar

namespace TreeBuilder

/-- What stands among the children of a tree: the kinds of the tokens, and between them a gap for each
named child.  Extras, skipped kinds, blank free text and separators are left out. -/
def arrangement (builder : TreeBuilder) (tree : ParseTree) : List (Option String) :=
  tree.children.filterMap fun child =>
    if builder.isDropped child || !builder.profile.isComparable (builder.build child) then none
    else if child.named then some none
    else if child.kind == "," || child.kind == ";" then none
    else some (some child.kind)

end TreeBuilder

/-- A tree is taken for a query that is compared by its fields, although its tokens stand elsewhere. -/
def Grammar.TakenFor (grammar : Grammar) (source source' : String) (query file : ParseTree) : Prop :=
  ((grammar.builder source).build query).Plain ∧
  grammar.ComparedByFields ((grammar.builder source).build query) ∧
  (Criteria.validate ⟨grammar.profile, .exact, false⟩ ((grammar.builder source).build query)
    ((grammar.builder source').build file) {}).1 = .ok true ∧
  (grammar.builder source).arrangement query ≠ (grammar.builder source').arrangement file

/-- Exact mode accepts the slice `1:` for the slice `:1`, because the colon is neither a word nor in a
field and is not kept.  It accepts a word or an operator on the other side of the second operand: of
these it is kept that they are there, but not behind which operand. -/
theorem moved_tokens_accepted :
    let grammar : Grammar :=
      { profile := .ofLanguage .python
        layout := ⟨[("slice", { hasChildren := true }), ("integer", {}),
          ("sum", { single := ["operator"], hasChildren := true })]⟩
        parser := fun _ => none }
    let token : String → Option String → Nat → ParseTree := fun kind field start =>
      { Calls.tree kind field start (start + 1) [] with named := false }
    let number : Nat → ParseTree := fun start => Calls.tree "integer" none start (start + 1) []
    let slice : List ParseTree → ParseTree := Calls.tree "slice" none 0 3
    let sum : List ParseTree → ParseTree := Calls.tree "sum" none 0 3
    grammar.TakenFor ":1" "1:" (slice [token ":" none 0, number 1])
      (slice [number 0, token ":" none 1]) ∧
    grammar.TakenFor "1a2" "12a" (slice [number 0, token "a" none 1, number 2])
      (slice [number 0, number 1, token "a" none 2]) ∧
    grammar.TakenFor "1+2" "12+" (sum [number 0, token "+" (some "operator") 1, number 2])
      (sum [number 0, number 1, token "+" (some "operator") 2]) := by
  unfold Grammar.TakenFor Grammar.ComparedByFields Criteria.DecidedAlone
  decide +kernel

/-! ### Updates, a language with operators in fields -/

namespace Updates

/-- The operator `++`. -/
def operator (start : Nat) : ParseTree :=
  { Calls.tree "++" (some "operator") start (start + 2) [] with named := false }

/-- An operand of one letter. -/
def operand (start : Nat) : ParseTree :=
  Calls.tree "identifier" (some "argument") start (start + 1) []

/-- An update of an operand. -/
def update (stop : Nat) (children : List ParseTree) : ParseTree :=
  Calls.tree "update_expression" none 0 stop children

def grammar : Grammar where
  profile := .ofLanguage .typescript
  layout := ⟨[("update_expression", { single := ["argument", "operator"] }), ("identifier", {})]⟩
  parser
    | "++x" => some (update 3 [operator 0, operand 2])
    | "++ x" => some (update 4 [operator 0, operand 3])
    | "x++" => some (update 3 [operand 0, operator 1])
    | _ => none

end Updates

/-- The operator of `++x` stands ahead of the operand also where a blank is between them. -/
theorem spaced_update_has_same_tokens :
    let query := Updates.update 3 [Updates.operator 0, Updates.operand 2]
    let file := Updates.update 4 [Updates.operator 0, Updates.operand 3]
    Updates.grammar.layout.ReservesNames ∧
    ((Updates.grammar.builder "++x").build query).Plain ∧
    (Criteria.validate ⟨Updates.grammar.profile, .exact, false⟩
      ((Updates.grammar.builder "++x").build query)
      ((Updates.grammar.builder "++ x").build file) {}).1 = .ok true ∧
    ∀ tree tree', Updates.grammar.Faces "++x" "++ x" query file tree tree' →
      Updates.grammar.ComparedByFields ((Updates.grammar.builder "++x").ownNode tree) →
      Updates.grammar.SameTokens "++x" "++ x" tree tree' := by
  intro query file
  have hreserved : Updates.grammar.layout.ReservesNames := by decide
  have hplain : ((Updates.grammar.builder "++x").build query).Plain := by decide +kernel
  have hmatch : (Criteria.validate ⟨Updates.grammar.profile, .exact, false⟩
      ((Updates.grammar.builder "++x").build query)
      ((Updates.grammar.builder "++ x").build file) {}).1 = .ok true := by decide +kernel
  exact ⟨hreserved, hplain, hmatch, Grammar.sameTokens_of_exact hreserved hplain hmatch⟩

example :
    let query := Updates.update 3 [Updates.operator 0, Updates.operand 2]
    let file := Updates.update 3 [Updates.operand 0, Updates.operator 1]
    (Criteria.validate ⟨Updates.grammar.profile, .exact, false⟩
      ((Updates.grammar.builder "++x").build query)
      ((Updates.grammar.builder "x++").build file) {}).1 = .ok false := by
  decide +kernel

end StructuralSearch
