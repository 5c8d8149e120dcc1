import Mathlib.Data.List.Forall2
import StructuralSearch.Proofs.OverlookedChanges
import StructuralSearch.Proofs.SureSearch

/-!
# Comments and layout

Where a tree lies is of no account for matching: a match looks at kinds, texts and fields, and never
at a span (`Criteria.validate_eraseSpans`).

A text may be laid out anew and get more comments.  Its parse tree then has other places and more
extras (`Grammar.Redrawn`), and what is built from it is the same apart from the spans, because every
look of the builder at the children of a tree passes over the extras.  There are exceptions, and
`Grammar.TakesComments` leaves them out: a transparent tree counts its named children with the extras,
a leaf is told by having no child at all, a text that is kept has the comments in it, and a token in a
field asks for any named sibling behind it.

The main results are `Grammar.eraseSpans_build_of_redrawn` and `Grammar.matching_of_redrawn`.
-/

namespace StructuralSearch

/-! ### Lists with more elements in between -/

/-- The elements of the first list stand in the second one in their order, related one by one, and
what stands between them there is of the kind that may be put in. -/
inductive Interspersed {α β : Type} (R : α → β → Prop) (extra : β → Prop) :
    List α → List β → Prop
  | nil : Interspersed R extra [] []
  | keep {x : α} {y : β} {xs : List α} {ys : List β} (first : R x y)
      (rest : Interspersed R extra xs ys) : Interspersed R extra (x :: xs) (y :: ys)
  | more {y : β} {xs : List α} {ys : List β} (first : extra y)
      (rest : Interspersed R extra xs ys) : Interspersed R extra xs (y :: ys)

namespace Interspersed

variable {α β : Type} {R S : α → β → Prop} {extra : β → Prop} {xs : List α} {ys : List β}

/-- The relation of the elements may be weakened. -/
theorem imp_of_mem (h : Interspersed R extra xs ys)
    (himp : ∀ x ∈ xs, ∀ y ∈ ys, R x y → S x y) : Interspersed S extra xs ys := by
  induction h with
  | nil => exact .nil
  | keep first _ ih =>
      refine .keep (himp _ List.mem_cons_self _ List.mem_cons_self first) (ih ?_)
      exact fun x hx y hy => himp x (List.mem_cons_of_mem _ hx) y (List.mem_cons_of_mem _ hy)
  | more first _ ih =>
      exact .more first (ih fun x hx y hy => himp x hx y (List.mem_cons_of_mem _ hy))

/-- What was put in makes the list longer. -/
theorem length_le (h : Interspersed R extra xs ys) : xs.length ≤ ys.length := by
  induction h with
  | nil => exact Nat.le_refl _
  | keep _ _ ih => exact Nat.succ_le_succ ih
  | more _ _ ih => exact Nat.le_succ_of_le ih

/-- If the list is not longer, nothing was put in. -/
theorem forall₂_of_length_le (h : Interspersed R extra xs ys) (hlength : ys.length ≤ xs.length) :
    List.Forall₂ R xs ys := by
  induction h with
  | nil => exact .nil
  | keep first _ ih => exact .cons first (ih (Nat.le_of_succ_le_succ hlength))
  | more _ rest _ =>
      have hle := rest.length_le
      rw [List.length_cons] at hlength
      omega

/-- A test that refuses all that may be put in, and cannot tell related elements apart, leaves related
elements. -/
theorem filter (h : Interspersed R extra xs ys) {p : α → Bool} {q : β → Bool}
    (hextra : ∀ y, extra y → q y = false) (hsame : ∀ x y, R x y → p x = q y) :
    List.Forall₂ R (xs.filter p) (ys.filter q) := by
  induction h with
  | nil => exact .nil
  | @keep x y _ _ first _ ih =>
      have hboth := hsame x y first
      rw [List.filter_cons, List.filter_cons, hboth]
      split
      · exact .cons first ih
      · exact ih
  | @more y _ _ first _ ih =>
      rw [List.filter_cons_of_neg (by simp [hextra y first])]
      exact ih

/-- A related element stands in the other list. -/
theorem exists_of_mem (h : Interspersed R extra xs ys) {x : α} (hx : x ∈ xs) :
    ∃ y ∈ ys, R x y := by
  induction h with
  | nil => exact absurd hx List.not_mem_nil
  | keep first _ ih =>
      rcases List.mem_cons.mp hx with rfl | hx
      · exact ⟨_, List.mem_cons_self, first⟩
      · obtain ⟨y, hy, hxy⟩ := ih hx
        exact ⟨y, List.mem_cons_of_mem _ hy, hxy⟩
  | more _ _ ih =>
      obtain ⟨y, hy, hxy⟩ := ih hx
      exact ⟨y, List.mem_cons_of_mem _ hy, hxy⟩

end Interspersed

/-! ### Nodes without their spans -/

namespace Node

mutual

/-- Applies `f` to the span of a node and to the spans of all nodes below it. -/
def mapSpan (f : Span → Span) : Node → Node
  | ⟨kind, span, named, text, fields⟩ => ⟨kind, f span, named, text, mapSpanFields f fields⟩

/-- Applies `f` to all spans in a list of fields. -/
def mapSpanFields (f : Span → Span) :
    List (String × FieldValue Node) → List (String × FieldValue Node)
  | [] => []
  | (name, value) :: fields => (name, mapSpanValue f value) :: mapSpanFields f fields

/-- Applies `f` to all spans in a field. -/
def mapSpanValue (f : Span → Span) : FieldValue Node → FieldValue Node
  | .token text => .token text
  | .child none => .child none
  | .child (some node) => .child (some (mapSpan f node))
  | .sequence nodes => .sequence (mapSpanAll f nodes)

/-- Applies `f` to all spans in a list of nodes. -/
def mapSpanAll (f : Span → Span) : List Node → List Node
  | [] => []
  | node :: nodes => mapSpan f node :: mapSpanAll f nodes

end

/-- A node that lies nowhere: all its spans are the same. -/
def eraseSpans (node : Node) : Node :=
  node.mapSpan fun _ => ⟨⟨0, 0, 0⟩, ⟨0, 0, 0⟩⟩

/-- The value of a field with nodes that lie nowhere. -/
def eraseValue (value : FieldValue Node) : FieldValue Node :=
  mapSpanValue (fun _ => ⟨⟨0, 0, 0⟩, ⟨0, 0, 0⟩⟩) value

variable (f : Span → Span)

theorem mapSpanAll_eq_map (nodes : List Node) : mapSpanAll f nodes = nodes.map (mapSpan f) := by
  induction nodes with
  | nil => rfl
  | cons node nodes ih => simp [mapSpanAll, ih]

theorem mapSpanFields_eq_map (fields : List (String × FieldValue Node)) :
    mapSpanFields f fields = fields.map fun entry => (entry.1, mapSpanValue f entry.2) := by
  induction fields with
  | nil => rfl
  | cons entry fields ih => simp [mapSpanFields, ih]

theorem mapSpanValue_eq_map : mapSpanValue f = FieldValue.map (mapSpan f) := by
  funext value
  rcases value with text | (_ | node) | nodes
  · rfl
  · rfl
  · rfl
  · simp [mapSpanValue, FieldValue.map, mapSpanAll_eq_map]

@[simp] theorem kind_mapSpan (node : Node) : (node.mapSpan f).kind = node.kind := by
  cases node; rfl

@[simp] theorem text_mapSpan (node : Node) : (node.mapSpan f).text = node.text := by
  cases node; rfl

/-- A field of a node whose spans were changed. -/
theorem field?_mapSpan (node : Node) (name : String) :
    (node.mapSpan f).field? name = (node.field? name).map (mapSpanValue f) := by
  obtain ⟨kind, span, named, text, fields⟩ := node
  simp only [mapSpan, field?, mapSpanFields_eq_map]
  induction fields with
  | nil => rfl
  | cons entry fields ih =>
      rw [List.map_cons, List.lookup_cons, List.lookup_cons, ih]
      split <;> rfl

/-- Fields are set alike whatever the spans are. -/
theorem mapSpan_setField (node : Node) (name : String) (value : FieldValue Node) :
    (node.setField name value).mapSpan f =
      (node.mapSpan f).setField name (mapSpanValue f value) := by
  obtain ⟨kind, span, named, text, fields⟩ := node
  simp only [setField, mapSpan, mapSpanFields_eq_map, mk.injEq, true_and]
  induction fields with
  | nil => rfl
  | cons entry fields ih =>
      obtain ⟨other, held⟩ := entry
      simp only [insertField, List.map_cons]
      split
      · rfl
      · split
        · rfl
        · rw [List.map_cons, ih]

/-- Elements are added to sequences alike whatever the spans are. -/
theorem mapSpan_pushTo (node : Node) (name : String) (element : Node) :
    (node.pushTo name element).mapSpan f = (node.mapSpan f).pushTo name (element.mapSpan f) := by
  unfold pushTo
  rw [field?_mapSpan]
  cases node.field? name with
  | none => rfl
  | some value =>
      rcases value with text | (_ | child) | nodes
      · rfl
      · rfl
      · rfl
      · simp [mapSpan_setField, mapSpanValue, mapSpanAll_eq_map]

/-- Setting a field of a node and forgetting where it lies. -/
theorem eraseSpans_setField (node : Node) (name : String) (value : FieldValue Node) :
    (node.setField name value).eraseSpans = node.eraseSpans.setField name (eraseValue value) :=
  mapSpan_setField _ node name value

/-- Adding an element to a sequence and forgetting where it lies. -/
theorem eraseSpans_pushTo (node : Node) (name : String) (element : Node) :
    (node.pushTo name element).eraseSpans = node.eraseSpans.pushTo name element.eraseSpans :=
  mapSpan_pushTo _ node name element

end Node

/-! ### Matching does not look at spans -/

namespace Criteria

/-- **Spans are of no account.**  Nothing that is compared of a node depends on where it lies. -/
theorem overlooks_mapSpan (criteria : Criteria) (f : Span → Span) :
    criteria.Overlooks (Node.mapSpan f) where
  kind := Node.kind_mapSpan f
  field? node name := by rw [Node.field?_mapSpan, Node.mapSpanValue_eq_map]
  folded node := by rw [Node.text_mapSpan]
  plain node _ := Node.text_mapSpan f node
  comparable node := by simp [Profile.isComparable, Profile.isText]

/-- Matching takes the same course wherever the nodes of the file lie. -/
theorem validate_eraseSpans (criteria : Criteria) (query file : Node) :
    criteria.validate query file.eraseSpans = criteria.validate query file :=
  (criteria.overlooks_mapSpan _).validate_eq query file

end Criteria

/-! ### Texts that are laid out anew -/

/-- A text is put into a node wherever the node lies. -/
theorem Node.eraseSpans_withText (node : Node) (text : Option String) :
    ({ node with text } : Node).eraseSpans = { node.eraseSpans with text } := by
  cases node; rfl

namespace TreeBuilder

/-- Keywords are put into a node wherever the node lies. -/
theorem eraseSpans_addKeywords (node : Node) (words : List String) :
    (addKeywords node words).eraseSpans = addKeywords node.eraseSpans words := by
  cases words with
  | nil => rfl
  | cons word words => exact Node.eraseSpans_setField node _ _

/-- A node gets its empty fields wherever it lies. -/
theorem eraseSpans_emptyFields (layout : KindLayout) (node : Node) :
    (emptyFields layout node).eraseSpans = emptyFields layout node.eraseSpans := by
  have hfields : ∀ (value : FieldValue Node) (names : List String) (node : Node),
      (names.foldl (fun node name => node.setField name value) node).eraseSpans =
        names.foldl (fun node name => node.setField name (Node.eraseValue value))
          node.eraseSpans := by
    intro value names
    induction names with
    | nil => intro node; rfl
    | cons name names ih =>
        intro node
        rw [List.foldl_cons, List.foldl_cons, ih, Node.eraseSpans_setField]
  unfold emptyFields
  dsimp only
  split
  · rw [Node.eraseSpans_setField, hfields, hfields]
    rfl
  · rw [hfields, hfields]
    rfl

end TreeBuilder

namespace Grammar

/-- Two parse trees show the same: they are of one kind and stand in one field, and they have the same
text where a text is looked at, in leaves and in tokens and where the text is kept. -/
structure ShowsSame (grammar : Grammar) (source source' : String) (before after : ParseTree) :
    Prop where
  kind : after.kind = before.kind
  named : after.named = before.named
  extra : after.extra = before.extra
  field : after.field = before.field
  text : before.children = [] ∨ before.named = false ∨ grammar.profile.keepsText before.kind = true →
    (grammar.builder source').rawText after = (grammar.builder source).rawText before

/-- A tree may get comments among its children: it neither gives way to its only named child nor
keeps its text, it has a child that is no extra, and if a token in a field is among the children, then
so is a named node that is no extra. -/
structure TakesComments (grammar : Grammar) (tree : ParseTree) : Prop where
  not_transparent : tree.kind ∉ grammar.profile.transparentKinds
  keepsText : grammar.profile.keepsText tree.kind = false
  occupied : ∃ child ∈ tree.children, child.extra = false
  operand : ∀ token ∈ tree.children, token.named = false → token.field.isSome →
    ∃ child ∈ tree.children, child.named = true ∧ child.extra = false

/-- A tree that is laid out anew: all places may have moved, and where comments may stand there may
be more of them. -/
inductive Redrawn (grammar : Grammar) (source source' : String) : ParseTree → ParseTree → Prop
  | intro {before after : ParseTree} (same : grammar.ShowsSame source source' before after)
      (children : Interspersed (Redrawn grammar source source') (fun tree => tree.extra = true)
        before.children after.children)
      (room : before.children.length < after.children.length → grammar.TakesComments before) :
      Redrawn grammar source source' before after

variable {grammar : Grammar} {source source' : String}

/-- Two parse trees show the same, and the same is built from them apart from the spans. -/
structure BuildsSame (grammar : Grammar) (source source' : String) (before after : ParseTree) :
    Prop extends grammar.ShowsSame source source' before after where
  build : ((grammar.builder source').build after).eraseSpans =
    ((grammar.builder source).build before).eraseSpans

/-- The children of a tree before and after it was laid out anew. -/
abbrev SameChildren (grammar : Grammar) (source source' : String) :
    List ParseTree → List ParseTree → Prop :=
  Interspersed (grammar.BuildsSame source source') fun tree => tree.extra = true

/-- What is the same in trees that show the same is the same all along a list. -/
theorem map_eq_of_forall₂ {γ : Type} {before after : List ParseTree}
    (h : List.Forall₂ (grammar.BuildsSame source source') before after) {look : ParseTree → γ}
    (hlook : ∀ x y, grammar.ShowsSame source source' x y → look y = look x) :
    after.map look = before.map look := by
  induction h with
  | nil => rfl
  | cons first _ ih => rw [List.map_cons, List.map_cons, hlook _ _ first.toShowsSame, ih]

section Pair

variable {before after : ParseTree} (h : grammar.BuildsSame source source' before after)
include h

/-- Two trees that build the same give a single field the same value. -/
theorem BuildsSame.singleValue_eq :
    Node.eraseValue ((grammar.builder source').singleValue after
        ((grammar.builder source').build after)) =
      Node.eraseValue ((grammar.builder source).singleValue before
        ((grammar.builder source).build before)) := by
  unfold TreeBuilder.singleValue
  rw [h.named]
  cases hnamed : before.named with
  | true => exact congrArg (fun node => FieldValue.child (some node)) h.build
  | false => exact congrArg FieldValue.token (h.text (Or.inr (Or.inl hnamed)))

/-- Two trees that build the same give a sequence the same element. -/
theorem BuildsSame.sequenceElement_eq :
    ((grammar.builder source').sequenceElement after
        ((grammar.builder source').build after)).eraseSpans =
      ((grammar.builder source).sequenceElement before
        ((grammar.builder source).build before)).eraseSpans := by
  unfold TreeBuilder.sequenceElement
  rw [h.named, h.kind]
  cases hnamed : before.named with
  | true => exact h.build
  | false => rw [h.text (Or.inr (Or.inl hnamed))]; rfl

/-- Two trees that build the same are attached in the same way. -/
theorem BuildsSame.attach_eq (layout : KindLayout) {node node' : Node}
    (hnode : node'.eraseSpans = node.eraseSpans) :
    ((grammar.builder source').attach layout node'
        (after, (grammar.builder source').build after)).eraseSpans =
      ((grammar.builder source).attach layout node
        (before, (grammar.builder source).build before)).eraseSpans := by
  have hunfielded : (TreeBuilder.attachUnfielded layout node' after
        ((grammar.builder source').build after)).eraseSpans =
      (TreeBuilder.attachUnfielded layout node before
        ((grammar.builder source).build before)).eraseSpans := by
    unfold TreeBuilder.attachUnfielded
    rw [h.named]
    split
    · rw [Node.eraseSpans_pushTo, Node.eraseSpans_pushTo, hnode, h.build]
    · exact hnode
  have hsame : (grammar.builder source').profile = (grammar.builder source).profile := rfl
  simp only [TreeBuilder.attach, h.extra, h.kind, h.field, hsame]
  by_cases hskipped :
    (before.extra || (grammar.builder source).profile.skippedKinds.contains before.kind) = true
  · rwa [if_pos hskipped, if_pos hskipped]
  · rw [if_neg hskipped, if_neg hskipped]
    cases before.field with
    | none => exact hunfielded
    | some name =>
        dsimp only
        by_cases hsingle : layout.single.contains name = true
        · rw [if_pos hsingle, if_pos hsingle, Node.eraseSpans_setField, Node.eraseSpans_setField,
            hnode, h.singleValue_eq]
        · rw [if_neg hsingle, if_neg hsingle]
          by_cases hmultiple : layout.multiple.contains name = true
          · rw [if_pos hmultiple, if_pos hmultiple, Node.eraseSpans_pushTo,
              Node.eraseSpans_pushTo, hnode, h.sequenceElement_eq]
          · rwa [if_neg hmultiple, if_neg hmultiple]

end Pair

section Children

variable {before after : List ParseTree}

/-- Either there are named children behind a place in both readings or in none, if no comments were
added there or a named child is there that is none. -/
theorem SameChildren.any_named_eq (h : grammar.SameChildren source source' before after)
    (hoperand : before.length < after.length →
      ∃ child ∈ before, child.named = true ∧ child.extra = false) :
    after.any (·.named) = before.any (·.named) := by
  by_cases hmore : before.length < after.length
  · obtain ⟨child, hchild, hnamed, -⟩ := hoperand hmore
    obtain ⟨twin, htwin, hsame⟩ := h.exists_of_mem hchild
    rw [List.any_eq_true.mpr ⟨child, hchild, hnamed⟩,
      List.any_eq_true.mpr ⟨twin, htwin, hsame.named.trans hnamed⟩]
  · have hsame := h.forall₂_of_length_le (Nat.le_of_not_lt hmore)
    have hnamed := map_eq_of_forall₂ hsame fun _ _ => ShowsSame.named
    simpa [List.any_map, Function.comp_def] using congrArg (List.any · id) hnamed

/-- The keywords of a tree do not depend on its comments.  The induction is on the children; a token
in a field is marked alike because either a named child that is no extra stood before it, which both
readings remember, or one stands behind it, which both readings find. -/
theorem SameChildren.keywords_eq (h : grammar.SameChildren source source' before after)
    {seenNamed : Bool} (hoperand : before.length < after.length → seenNamed = false →
      ∀ token ∈ before, token.named = false → token.field.isSome →
      ∃ child ∈ before, child.named = true ∧ child.extra = false) :
    TreeBuilder.keywords seenNamed after = TreeBuilder.keywords seenNamed before := by
  induction h generalizing seenNamed with
  | nil => rfl
  | @more comment _ after hextra rest ih =>
      rw [TreeBuilder.keywords, if_pos hextra]
      exact ih fun _ => hoperand (Nat.lt_succ_of_le rest.length_le)
  | @keep x y before after first rest ih =>
      -- a named child that is no extra and is not `x` stands among the later children
      have hlater : ∀ {seen : Bool}, (seen = false → seenNamed = false ∧
          (x.named = true → x.extra = true)) → before.length < after.length → seen = false →
          ∀ token ∈ before, token.named = false → token.field.isSome →
          ∃ child ∈ before, child.named = true ∧ child.extra = false := by
        intro seen hseen hmore hunseen token htoken hanonymous hfield
        obtain ⟨hbefore, hx⟩ := hseen hunseen
        obtain ⟨child, hchild, hnamed, hplain⟩ := hoperand (Nat.succ_lt_succ hmore) hbefore token
          (List.mem_cons_of_mem _ htoken) hanonymous hfield
        rcases List.mem_cons.mp hchild with rfl | hchild
        · rw [hx hnamed] at hplain
          cases hplain
        · exact ⟨child, hchild, hnamed, hplain⟩
      rw [TreeBuilder.keywords, TreeBuilder.keywords, first.extra, first.named, first.field,
        first.kind]
      cases hextra : x.extra with
      | true => exact ih (hlater fun hunseen => ⟨hunseen, fun _ => hextra⟩)
      | false =>
          cases hnamed : x.named with
          | true => exact ih (hlater nofun)
          | false =>
              have hrest := ih (hlater fun hunseen => ⟨hunseen, fun h => nomatch h.symm.trans hnamed⟩)
              cases hfield : x.field with
              | none => simp only [Bool.false_eq_true, ↓reduceIte, hrest]
              | some name =>
                  cases seenNamed with
                  | true => simpa using hrest
                  | false =>
                      have hany := SameChildren.any_named_eq rest fun hmore => by
                        obtain ⟨child, hchild, hchildNamed, hplain⟩ :=
                          hoperand (Nat.succ_lt_succ hmore) rfl x List.mem_cons_self hnamed
                            (by simp [hfield])
                        rcases List.mem_cons.mp hchild with rfl | hchild
                        · rw [hnamed] at hchildNamed
                          cases hchildNamed
                        · exact ⟨child, hchild, hchildNamed, hplain⟩
                      simp only [Bool.false_eq_true, ↓reduceIte, hany, hrest]

/-- The children without the extras show the same, one by one. -/
theorem SameChildren.visible (h : grammar.SameChildren source source' before after) :
    List.Forall₂ (grammar.BuildsSame source source') (before.filter (!·.extra))
      (after.filter (!·.extra)) := by
  refine h.filter (fun tree hextra => by simp [hextra]) fun x y hsame => ?_
  rw [hsame.extra]

/-- The fields of a node do not depend on the comments among its children: each child goes to the same
place with the same node, and comments go nowhere. -/
theorem SameChildren.attach_eq (h : grammar.SameChildren source source' before after)
    (layout : KindLayout) {node node' : Node} (hnode : node'.eraseSpans = node.eraseSpans) :
    (((grammar.builder source').buildAll after).foldl
      ((grammar.builder source').attach layout) node').eraseSpans =
    (((grammar.builder source).buildAll before).foldl
      ((grammar.builder source).attach layout) node).eraseSpans := by
  induction h generalizing node node' with
  | nil => exact hnode
  | more hextra _ ih =>
      rw [TreeBuilder.buildAll, List.foldl_cons]
      refine ih ?_
      rwa [TreeBuilder.attach, if_pos (by rw [hextra, Bool.true_or])]
  | keep first _ ih =>
      rw [TreeBuilder.buildAll, TreeBuilder.buildAll, List.foldl_cons, List.foldl_cons]
      exact ih (first.attach_eq layout hnode)

end Children

/-- A text kept by a node does not depend on the comments among its children. -/
theorem nodeText_eq {before after : ParseTree} (h : grammar.ShowsSame source source' before after)
    (hchildren : grammar.SameChildren source source' before.children after.children)
    (hroom : before.children.length < after.children.length → grammar.TakesComments before) :
    (grammar.builder source').nodeText after = (grammar.builder source).nodeText before := by
  have hleaf : after.children.isEmpty = before.children.isEmpty := by
    rw [Bool.eq_iff_iff, List.isEmpty_iff, List.isEmpty_iff]
    constructor
    · intro hnone
      have hlength := hchildren.length_le
      rw [hnone] at hlength
      exact List.length_eq_zero_iff.mp (Nat.le_zero.mp hlength)
    · intro hnone
      by_contra hsome
      obtain ⟨child, hchild, -⟩ := (hroom (by
        rw [hnone]
        exact List.length_pos_iff.mpr hsome)).occupied
      rw [hnone] at hchild
      exact absurd hchild List.not_mem_nil
  have hkinds := map_eq_of_forall₂ hchildren.visible fun _ _ => ShowsSame.kind
  have hnamed : (after.children.filter (!·.extra)).all (!·.named) =
      (before.children.filter (!·.extra)).all (!·.named) := by
    have hmapped := map_eq_of_forall₂ hchildren.visible fun _ _ => ShowsSame.named
    simpa [List.all_map, Function.comp_def] using congrArg (List.all · not) hmapped
  have hsame : (grammar.builder source').profile = grammar.profile := rfl
  have hsame' : (grammar.builder source).profile = grammar.profile := rfl
  simp only [TreeBuilder.nodeText, hleaf, hnamed, hkinds, h.kind, hsame, hsame']
  split
  · rename_i hkept
    rw [h.text]
    rw [Bool.or_eq_true, List.isEmpty_iff] at hkept
    exact hkept.imp_right Or.inr
  · rfl

/-- The node that is put together for a tree does not depend on the comments among its children, apart
from its spans. -/
theorem assemble_eq {before after : ParseTree} (h : grammar.ShowsSame source source' before after)
    (hchildren : grammar.SameChildren source source' before.children after.children)
    (hroom : before.children.length < after.children.length → grammar.TakesComments before) :
    ((grammar.builder source').assemble after
        ((grammar.builder source').buildAll after.children)).eraseSpans =
      ((grammar.builder source).assemble before
        ((grammar.builder source).buildAll before.children)).eraseSpans := by
  have hkeywords : TreeBuilder.keywords false after.children =
      TreeBuilder.keywords false before.children :=
    hchildren.keywords_eq fun hmore _ => (hroom hmore).operand
  have hfill : ((grammar.builder source').fill after
        ((grammar.builder source').buildAll after.children)).eraseSpans =
      ((grammar.builder source).fill before
        ((grammar.builder source).buildAll before.children)).eraseSpans := by
    have hsame : (grammar.builder source').layout = (grammar.builder source).layout := rfl
    simp only [TreeBuilder.fill, h.kind, hsame]
    cases (grammar.builder source).layout.kind? before.kind with
    | none => rfl
    | some layout =>
        refine hchildren.attach_eq layout ?_
        rw [TreeBuilder.eraseSpans_emptyFields, TreeBuilder.eraseSpans_emptyFields]
        rfl
  rw [TreeBuilder.assemble, TreeBuilder.assemble, TreeBuilder.eraseSpans_addKeywords,
    TreeBuilder.eraseSpans_addKeywords, Node.eraseSpans_withText, Node.eraseSpans_withText, hfill,
    nodeText_eq h hchildren hroom, hkeywords]

/-- Only trees without comments among their children give way to a child, and they do so alike. -/
theorem replacement?_eq {before after : ParseTree} (h : grammar.ShowsSame source source' before after)
    (hchildren : grammar.SameChildren source source' before.children after.children)
    (hroom : before.children.length < after.children.length → grammar.TakesComments before) :
    ((grammar.builder source').replacement? after.kind
        ((grammar.builder source').buildAll after.children)).map Node.eraseSpans =
      ((grammar.builder source).replacement? before.kind
        ((grammar.builder source).buildAll before.children)).map Node.eraseSpans := by
  have hsame : (grammar.builder source').profile = grammar.profile := rfl
  have hsame' : (grammar.builder source).profile = grammar.profile := rfl
  simp only [TreeBuilder.replacement?, h.kind, hsame, hsame', TreeBuilder.buildAll_eq_map,
    List.filter_map]
  by_cases htransparent : grammar.profile.transparentKinds.contains before.kind = true
  · rw [if_pos htransparent, if_pos htransparent]
    have hlength : after.children.length ≤ before.children.length := by
      by_contra hmore
      exact (hroom (Nat.lt_of_not_le hmore)).not_transparent (List.contains_iff_mem.mp htransparent)
    have hnamed : List.Forall₂ (grammar.BuildsSame source source')
        (before.children.filter (·.named)) (after.children.filter (·.named)) := by
      refine List.rel_filter (fun x y hsame => ?_) (hchildren.forall₂_of_length_le hlength)
      exact iff_of_eq (congrArg (· = true) hsame.named.symm)
    simp only [Function.comp_def]
    generalize before.children.filter (·.named) = named at hnamed ⊢
    generalize after.children.filter (·.named) = named' at hnamed ⊢
    cases hnamed with
    | nil => rfl
    | cons first rest =>
        cases rest with
        | nil => exact congrArg some first.build
        | cons _ _ => rfl
  · rw [if_neg htransparent, if_neg htransparent]

/-- **Comments and layout leave the same nodes.**  The induction is on the tree before it was laid out
anew: its children build the same, and so each look at them sees the same. -/
theorem eraseSpans_build_of_redrawn {before after : ParseTree}
    (h : grammar.Redrawn source source' before after) :
    ((grammar.builder source').build after).eraseSpans =
      ((grammar.builder source).build before).eraseSpans := by
  induction before using ParseTree.induction_on_children generalizing after with
  | step before ih =>
      obtain ⟨same, children, room⟩ := h
      have hchildren : grammar.SameChildren source source' before.children after.children := by
        refine children.imp_of_mem fun x hx y _ hxy => ⟨?_, ih x hx hxy⟩
        cases hxy with
        | intro same _ _ => exact same
      have hreplaced := replacement?_eq same hchildren room
      rw [TreeBuilder.build_eq, TreeBuilder.build_eq, ← Option.getD_map Node.eraseSpans,
        ← Option.getD_map Node.eraseSpans, hreplaced, assemble_eq same hchildren room]

/-- **Comments and layout have no influence on matching.**  A text may be laid out anew and get more
comments: the same is built from it, apart from the spans, and whatever is looked for in it, in each
mode, the match has the same outcome after the same number of comparisons. -/
theorem matching_of_redrawn {before after : ParseTree}
    (h : grammar.Redrawn source source' before after) :
    ((grammar.builder source').build after).eraseSpans =
      ((grammar.builder source).build before).eraseSpans ∧
    ∀ (criteria : Criteria) (query : Node) (tally : Tally),
      criteria.validate query ((grammar.builder source').build after) tally =
        criteria.validate query ((grammar.builder source).build before) tally := by
  have hbuild := eraseSpans_build_of_redrawn h
  refine ⟨hbuild, fun criteria query tally => ?_⟩
  rw [← criteria.validate_eraseSpans, hbuild, criteria.validate_eraseSpans]

end Grammar

/-- A comment and some blanks are put into the arguments of a call. -/
theorem commented_call_matches_alike :
    let comment : ParseTree := { Calls.tree "comment" none 5 12 [] with extra := true }
    let before := Calls.program 6 [Calls.name 2 3, Calls.name 4 5]
    let after := Calls.program 15 [Calls.name 2 3, comment, Calls.name 13 14]
    Calls.grammar.Redrawn "f(a,b)" "f(a, /* b */ b)" before after ∧
    ((Calls.grammar.builder "f(a, /* b */ b)").build after).eraseSpans =
      ((Calls.grammar.builder "f(a,b)").build before).eraseSpans ∧
    ∀ (criteria : Criteria) (query : Node) (tally : Tally),
      criteria.validate query ((Calls.grammar.builder "f(a, /* b */ b)").build after) tally =
        criteria.validate query ((Calls.grammar.builder "f(a,b)").build before) tally := by
  intro comment before after
  have hredrawn : Calls.grammar.Redrawn "f(a,b)" "f(a, /* b */ b)" before after := by
    have hname : ∀ {start stop start' stop' : Nat} {field : Option String},
        Text.sliceBytes start' stop' "f(a, /* b */ b)" = Text.sliceBytes start stop "f(a,b)" →
        Calls.grammar.Redrawn "f(a,b)" "f(a, /* b */ b)" (Calls.tree "name" field start stop [])
          (Calls.tree "name" field start' stop' []) :=
      fun htext => .intro ⟨rfl, rfl, rfl, rfl, fun _ => htext⟩ .nil nofun
    refine .intro ⟨rfl, rfl, rfl, rfl, by decide⟩ (.keep (.intro ⟨rfl, rfl, rfl, rfl, by decide⟩
      (.keep (hname (by decide)) (.keep (hname (by decide)) (.more rfl (.keep (hname (by decide))
        .nil)))) fun _ => ?_) .nil) nofun
    exact ⟨by decide, by decide, ⟨_, List.mem_cons_self, rfl⟩, by decide⟩
  exact ⟨hredrawn, Grammar.matching_of_redrawn hredrawn⟩

end StructuralSearch
