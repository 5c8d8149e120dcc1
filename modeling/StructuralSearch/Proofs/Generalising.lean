import StructuralSearch.Proofs.ExactRelation
import StructuralSearch.Proofs.PlainQueries

/-!
# Generalised queries

A query is made more general by putting `$$` in the place of one of its nodes, or `$` in the place of a
part of a name.  The node may stand anywhere in the query, and the edit changes what the nodes around
it are: a statement around the node becomes a wildcard, a name becomes `$$` or even `$$$`.

All that matters of a node to those around it is summed up in `Criteria.Widens`: a wildcard stays the
wildcard that it was, and the node describes at least the file nodes that it described.  The edits
widen a node, and a node is widened if one below it is.

One change is not for the better.  A token is no content that a node can be a wrapper of, but `$$` is.
So if `$$` takes the place of a token that is all there is below a name `$$$`, an element for any
number of nodes becomes one for a single node.
-/

namespace StructuralSearch

namespace Node

/-! ### Wrappers around an edit -/

namespace Content

/-- How contents are grouped does not matter. -/
theorem append_assoc (a b c : Content) : (a.append b).append c = a.append (b.append c) := by
  cases a <;> cases b <;> cases c <;> rfl

end Content

/-- The content of a list of fields around one of them. -/
theorem contentOfFields_around (front back : List (String × FieldValue Node)) (name : String)
    (value : FieldValue Node) :
    contentOfFields (front ++ (name, value) :: back) =
      (contentOfFields front).append ((contentOfValue value).append (contentOfFields back)) := by
  induction front with
  | nil => rfl
  | cons entry front ih =>
      obtain ⟨other, held⟩ := entry
      rw [List.cons_append, contentOfFields, contentOfFields, ih, Content.append_assoc]

/-- What an exchange of one node for another can do to the content of a field: the new node is its only
content where the old one was, there is more to it before and behind, or the new node is its only
content where the old one was a token, if it `wasToken`. -/
inductive ContentExchanged (old new : Node) (wasToken : Prop) : Content → Content → Prop
  | only : ContentExchanged old new wasToken (.only old) (.only new)
  | more : ContentExchanged old new wasToken .more .more
  | token (h : wasToken) : ContentExchanged old new wasToken .more (.only new)

/-- What stands around does not make more of an exchange. -/
theorem ContentExchanged.around {old new : Node} {wasToken : Prop} {before after : Content}
    (h : ContentExchanged old new wasToken before after) (front back : Content) :
    ContentExchanged old new wasToken (front.append (before.append back))
      (front.append (after.append back)) := by
  cases front <;> cases back <;> cases h <;>
    first
    | exact .more
    | exact .only
    | exact .token ‹_›

/-- What an exchange does to the sole child. -/
theorem ContentExchanged.soleChild? {old new before after : Node} {wasToken : Prop}
    (h : ContentExchanged old new wasToken (contentOfFields before.fields)
      (contentOfFields after.fields)) :
    (before.soleChild? = some old ∧ after.soleChild? = some new) ∨
      (before.soleChild? = none ∧ after.soleChild? = none) ∨
      (before.soleChild? = none ∧ after.soleChild? = some new ∧ wasToken) := by
  unfold Node.soleChild?
  generalize contentOfFields before.fields = a at h
  generalize contentOfFields after.fields = b at h
  cases h with
  | only => exact Or.inl ⟨rfl, rfl⟩
  | more => exact Or.inr (Or.inl ⟨rfl, rfl⟩)
  | token h => exact Or.inr (Or.inr ⟨rfl, rfl, h⟩)

/-- Without a sole child there is no wrapper to look through. -/
theorem innermost_of_none {node : Node} (h : node.soleChild? = none) : node.innermost = node := by
  rw [innermost]
  split
  · rename_i child hchild
    rw [h] at hchild
    cases hchild
  · rfl

/-- A wrapper is looked through. -/
theorem innermost_of_some {node child : Node} (h : node.soleChild? = some child) :
    node.innermost = child.innermost := by
  rw [innermost]
  split
  · rename_i other hother
    rw [h] at hother
    rw [Option.some.inj hother]
  · rename_i hnone
    rw [h] at hnone
    cases hnone

/-- A node is exchanged for another one at one place in a tree.  The `parent` is the node right above
this place, unless the place is the root. -/
inductive ExchangedBelow (old new : Node) : Option Node → Node → Node → Prop
  | here : ExchangedBelow old new none old new
  | child (kind : String) (span : Span) (named : Bool) (text : Option String)
      (front back : List (String × FieldValue Node)) (name : String) {parent : Option Node}
      {before after : Node} (hbelow : ExchangedBelow old new parent before after) :
      ExchangedBelow old new
        (some (parent.getD ⟨kind, span, named, text, front ++ (name, .child (some before)) :: back⟩))
        ⟨kind, span, named, text, front ++ (name, .child (some before)) :: back⟩
        ⟨kind, span, named, text, front ++ (name, .child (some after)) :: back⟩
  | element (kind : String) (span : Span) (named : Bool) (text : Option String)
      (front back : List (String × FieldValue Node)) (name : String) (first last : List Node)
      {parent : Option Node} {before after : Node}
      (hbelow : ExchangedBelow old new parent before after) :
      ExchangedBelow old new
        (some (parent.getD
          ⟨kind, span, named, text, front ++ (name, .sequence (first ++ before :: last)) :: back⟩))
        ⟨kind, span, named, text, front ++ (name, .sequence (first ++ before :: last)) :: back⟩
        ⟨kind, span, named, text, front ++ (name, .sequence (first ++ after :: last)) :: back⟩

/-- A node is exchanged for another one somewhere in a tree. -/
def Exchanged (old new before after : Node) : Prop :=
  ∃ parent, ExchangedBelow old new parent before after

/-- The nodes in one of the fields are children. -/
theorem mem_children_around {kind : String} {span : Span} {named : Bool} {text : Option String}
    {front back : List (String × FieldValue Node)} {name : String} {value : FieldValue Node}
    {child : Node} (h : child ∈ value.nodes) :
    child ∈ children ⟨kind, span, named, text, front ++ (name, value) :: back⟩ :=
  mem_children_iff.mpr ⟨name, value, by simp, h⟩

/-- Only at the place of the exchange itself can a token become a named node. -/
theorem ExchangedBelow.named_eq {old new before after : Node} {parent : Option Node}
    (h : ExchangedBelow old new parent before after) :
    before.named = after.named ∨ parent = none ∧ before = old ∧ after = new := by
  cases h with
  | here => exact Or.inr ⟨rfl, rfl, rfl⟩
  | child => exact Or.inl rfl
  | element => exact Or.inl rfl

/-- An entry of a list of fields is the one in the middle or stands around it. -/
theorem mem_fields_around {front back : List (String × FieldValue Node)} {name other : String}
    {value held : FieldValue Node} (h : (other, held) ∈ front ++ (name, value) :: back)
    (earlier : FieldValue Node) :
    (other, held) ∈ front ++ (name, earlier) :: back ∨ other = name ∧ held = value := by
  simp only [List.mem_append, List.mem_cons, Prod.mk.injEq] at h ⊢
  rcases h with hfront | hhere | hback
  · exact Or.inl (Or.inl hfront)
  · exact Or.inr hhere
  · exact Or.inl (Or.inr (Or.inr hback))

/-- A field that gives way to one that may stand in its place leaves a node with allowed fields only. -/
theorem everywhere_allows_around {layout : Layout} {kind : String} {span : Span} {named : Bool}
    {text : Option String} {front back : List (String × FieldValue Node)} {name : String}
    {value general : FieldValue Node}
    (h : Everywhere layout.Allows ⟨kind, span, named, text, front ++ (name, value) :: back⟩)
    (hadmits : (layout.fieldsOf kind).Admits name value → (layout.fieldsOf kind).Admits name general)
    (hnodes : ∀ child ∈ general.nodes, child ∈ value.nodes ∨ child.Everywhere layout.Allows) :
    Everywhere layout.Allows ⟨kind, span, named, text, front ++ (name, general) :: back⟩ := by
  refine everywhere_of_children (fun other held hmem => ?_) fun child hchild => ?_
  · rcases mem_fields_around hmem value with hbefore | ⟨rfl, rfl⟩
    · exact h.self other held hbefore
    · exact hadmits (h.self other value (by simp))
  · obtain ⟨other, held, hmem, hheld⟩ := mem_children_iff.mp hchild
    rcases mem_fields_around hmem value with hbefore | ⟨rfl, rfl⟩
    · exact h.child (mem_children_iff.mpr ⟨other, held, hbefore, hheld⟩)
    · exact (hnodes child hheld).elim (fun hold => h.child (mem_children_around hold)) id

/-- An exchange puts nothing into the fields that must not be there, if the new node holds nothing of
the kind. -/
theorem ExchangedBelow.everywhere_allows {layout : Layout} {old new before after : Node}
    {parent : Option Node} (h : ExchangedBelow old new parent before after)
    (hnew : old.Everywhere layout.Allows → new.Everywhere layout.Allows)
    (hbefore : before.Everywhere layout.Allows) : after.Everywhere layout.Allows := by
  induction h with
  | here => exact hnew hbefore
  | child kind span named text front back name _ ih =>
      refine everywhere_allows_around hbefore id fun child hchild => Or.inr ?_
      obtain rfl := List.mem_singleton.mp hchild
      exact ih (hbefore.child (mem_children_around (List.mem_singleton_self _)))
  | @element kind span named text front back name first last parent before after _ ih =>
      have hbelow : before.Everywhere layout.Allows :=
        hbefore.child (mem_children_around (by simp [FieldValue.nodes]))
      refine everywhere_allows_around hbefore id fun child hchild => ?_
      simp only [FieldValue.nodes, List.mem_append, List.mem_cons] at hchild ⊢
      rcases hchild with hfirst | rfl | hlast
      · exact Or.inl (Or.inl hfirst)
      · exact Or.inr (ih hbelow)
      · exact Or.inl (Or.inr (Or.inr hlast))

end Node

namespace Profile

variable (profile : Profile)

/-- A name without anything below it whose text is `$$`. -/
structure IsSingleLeaf (node : Node) : Prop where
  name : profile.isIdentifier node
  named : node.named = true
  text : node.text = some "$$"
  fields : node.fields = []

/-- A node is generalised: `$$` takes the place of a comparable node without `$$$`, or `$` that of a
part of a name other than `$$` and `$$$`. -/
inductive Generalises : Node → Node → Prop
  | node {old new : Node} (hcomparable : profile.isComparable old)
      (hrest : ∀ inner ∈ old.walk, profile.nodeWildcard? inner ≠ some .rest)
      (hnew : profile.IsSingleLeaf new) : Generalises old new
  | text {old : Node} {text general : String} {front part back : List Char}
      (hname : profile.isIdentifier old) (htext : old.text = some text)
      (hsingle : text ≠ "$$") (hrest : text ≠ "$$$") (hold : text.toList = front ++ (part ++ back))
      (hnew : general.toList = front ++ '$' :: back) :
      Generalises old { old with text := some general }

variable {profile}

/-- Which wildcard a node itself is depends on its kind and its text. -/
theorem nodeWildcard?_congr {a b : Node} (hkind : a.kind = b.kind) (htext : a.text = b.text) :
    profile.nodeWildcard? a = profile.nodeWildcard? b := by
  unfold nodeWildcard? isIdentifier isText
  rw [hkind, htext]

/-- Whether a node takes part in comparisons depends on its kind and its text. -/
theorem isComparable_congr {a b : Node} (hkind : a.kind = b.kind) (htext : a.text = b.text) :
    profile.isComparable a = profile.isComparable b := by
  simp only [isComparable, isText, hkind, htext]

/-- The value of a literal depends on its kind and its text. -/
theorem literalValue?_congr {a b : Node} (hkind : a.kind = b.kind) (htext : a.text = b.text) :
    profile.literalValue? a = profile.literalValue? b := by
  unfold literalValue? isString isText isNumber
  rw [hkind, htext]

/-- A node that is generalised has no fields but those that it had. -/
theorem Generalises.everywhere_allows {layout : Layout} {old new : Node}
    (h : profile.Generalises old new) (hold : old.Everywhere layout.Allows) :
    new.Everywhere layout.Allows := by
  cases h with
  | node _ _ hnew =>
      refine Node.everywhere_of_children ?_ ?_
      · simp [Layout.Allows, hnew.fields]
      · simp [Node.children, hnew.fields]
  | text => exact Node.everywhere_of_children hold.self fun child => hold.child

end Profile

namespace Aligned

variable {β α : Type} {isRest : β → Prop} {takes : β → α → Prop}

/-- A cut is one for other elements too if one of them is exchanged for an element that takes at least
as much, or any piece. -/
theorem exchange {before after : β} {front back : List β} {file : List α}
    (h : Aligned isRest takes (front ++ before :: back) file)
    (hrest : isRest before → isRest after)
    (htakes : ∀ x, takes before x → isRest after ∨ takes after x) :
    Aligned isRest takes (front ++ after :: back) file := by
  obtain ⟨first, behind, rfl, hfirst, hbehind⟩ := Aligned.append_iff.mp h
  refine hfirst.append ?_
  cases hbehind with
  | rest piece hyes hlater => exact .rest piece (hrest hyes) hlater
  | @one _ _ x last _ hfits hlater =>
      by_cases hyes : isRest after
      · exact .rest [x] hyes hlater
      · exact .one hyes ((htakes x hfits).resolve_left hyes) hlater

end Aligned

namespace Criteria

/-- All that matters to the nodes around it when a node of a query is exchanged for another one: it
takes part in comparisons as before, a wildcard stays what it was, and the new node describes what the
old one described.  A token may become a node with a name only if this is a wildcard for one node. -/
structure Widens (criteria : Criteria) (old new : Node) : Prop where
  named : old.named = true → new.named = true
  token : old.named = false → new.named = true →
    criteria.profile.elementWildcard? new = some .single
  comparable : criteria.profile.isComparable new = criteria.profile.isComparable old
  wildcard : ∀ wildcard, criteria.profile.elementWildcard? old = some wildcard →
    criteria.profile.elementWildcard? new = some wildcard
  related : ∀ file, criteria.Related old file → criteria.Related new file

variable {criteria : Criteria} {old new : Node}

/-- Whether a node is decided alone depends on its kind and its text. -/
theorem decidedAlone_congr {a b : Node} (hkind : a.kind = b.kind) (htext : a.text = b.text) :
    criteria.DecidedAlone a ↔ criteria.DecidedAlone b := by
  simp only [DecidedAlone, Profile.nodeWildcard?_congr hkind htext, Profile.isIdentifier,
    Profile.isString, Profile.isText, Profile.isNumber, hkind]

/-- What settles a node that is decided alone depends on its kind and its text. -/
theorem compareLevel_congr {a b : Node} (hkind : a.kind = b.kind) (htext : a.text = b.text)
    (halone : criteria.DecidedAlone a) (file : Node) :
    criteria.compareLevel file a = criteria.compareLevel file b := by
  have hvalue : criteria.profile.literalValue? a = criteria.profile.literalValue? b :=
    Profile.literalValue?_congr hkind htext
  have hkinds : criteria.profile.isIdentifier a = criteria.profile.isIdentifier b ∧
      criteria.profile.isString a = criteria.profile.isString b ∧
      criteria.profile.isText a = criteria.profile.isText b ∧
      criteria.profile.isNumber a = criteria.profile.isNumber b := by
    simp only [Profile.isIdentifier, Profile.isString, Profile.isText, Profile.isNumber, hkind,
      and_self]
  obtain ⟨hname, hstring, hfree, hnumber⟩ := hkinds
  have hwildcard : criteria.profile.nodeWildcard? a = criteria.profile.nodeWildcard? b :=
    Profile.nodeWildcard?_congr hkind htext
  rcases halone with h | h | h | h | h <;>
    simp [compareLevel, sameLiteralFamily, ← hwildcard, ← hname, ← hstring, ← hfree, ← hnumber,
      ← hvalue, ← hkind, ← htext, h]

/-- An exchange below a node leaves it the wildcard that it was, unless it was one for any number of
nodes and a token below it became its only content. -/
theorem elementWildcard?_of_exchanged (h : criteria.Widens old new) {before after : Node}
    {wasToken : Prop} (hkind : before.kind = after.kind) (htext : before.text = after.text)
    (hcontent : Node.ContentExchanged old new wasToken (Node.contentOfFields before.fields)
      (Node.contentOfFields after.fields))
    (htoken : wasToken → old.named = false ∧ new.named = true ∧
      criteria.profile.nodeWildcard? before ≠ some .rest) {wildcard : NodeWildcard}
    (hwildcard : criteria.profile.elementWildcard? before = some wildcard) :
    criteria.profile.elementWildcard? after = some wildcard := by
  unfold Profile.elementWildcard? at hwildcard ⊢
  rcases hcontent.soleChild? with ⟨hold, hnew⟩ | ⟨hold, hnew⟩ | ⟨hold, hnew, hwas⟩
  · rw [Node.innermost_of_some hold] at hwildcard
    rw [Node.innermost_of_some hnew]
    exact h.wildcard wildcard hwildcard
  · rw [Node.innermost_of_none hold] at hwildcard
    rw [Node.innermost_of_none hnew, ← Profile.nodeWildcard?_congr hkind htext]
    exact hwildcard
  · obtain ⟨hunnamed, hnamed, hrest⟩ := htoken hwas
    rw [Node.innermost_of_none hold] at hwildcard
    rw [Node.innermost_of_some hnew]
    cases wildcard with
    | single => exact h.token hunnamed hnamed
    | rest => exact absurd hwildcard hrest

section Around

variable {kind : String} {span : Span} {named : Bool} {text : Option String}
  {front back : List (String × FieldValue Node)} {name : String} {value general : FieldValue Node}

/-- A node still describes what it described if the value of one of its fields gives way to one that
describes no less. -/
theorem Related.around (hvalue : ∀ text, value ≠ .token text) (hgeneral : ∀ text, general ≠ .token text)
    (hrelated : ∀ actual, criteria.RelatedValue value actual → criteria.RelatedValue general actual)
    {file : Node} (h : criteria.Related ⟨kind, span, named, text, front ++ (name, value) :: back⟩ file) :
    criteria.Related ⟨kind, span, named, text, front ++ (name, general) :: back⟩ file := by
  cases h with
  | settled halone hlevel =>
      refine .settled ((decidedAlone_congr rfl rfl).mp halone) ?_
      rw [← hlevel]
      exact (compareLevel_congr (by rfl) (by rfl) halone file).symm
  | fields halone hagree hvalues =>
      refine .fields (fun hgeneralAlone => halone ((decidedAlone_congr rfl rfl).mp hgeneralAlone))
        ⟨hagree.kind, hagree.text, fun hkeywords => ?_, fun other token hmem => ?_⟩
        fun other held hmem htoken => ?_
      · have hnames := hagree.keywords hkeywords
        simpa only [Node.field?, List.lookup_isSome_iff, List.mem_append, List.mem_cons,
          or_and_right, exists_or, exists_eq_left] using hnames
      · rcases Node.mem_fields_around hmem value with hbefore | ⟨-, heq⟩
        · exact hagree.tokens other token hbefore
        · exact absurd heq.symm (hgeneral token)
      · rcases Node.mem_fields_around hmem value with hbefore | ⟨rfl, rfl⟩
        · exact hvalues other held hbefore htoken
        · exact hrelated _ (hvalues other value (by simp) hvalue)

/-- A node is widened if the value of one of its fields gives way to one that describes no less. -/
theorem Widens.around (h : criteria.Widens old new) (wasToken : Prop)
    (hvalue : ∀ text, value ≠ .token text) (hgeneral : ∀ text, general ≠ .token text)
    (hcontent : Node.ContentExchanged old new wasToken (Node.contentOfValue value)
      (Node.contentOfValue general))
    (htoken : wasToken → old.named = false ∧ new.named = true ∧ criteria.profile.nodeWildcard?
      ⟨kind, span, named, text, front ++ (name, value) :: back⟩ ≠ some .rest)
    (hrelated : ∀ actual,
      criteria.RelatedValue value actual → criteria.RelatedValue general actual) :
    criteria.Widens ⟨kind, span, named, text, front ++ (name, value) :: back⟩
      ⟨kind, span, named, text, front ++ (name, general) :: back⟩ where
  named := id
  token hold hnew := by
    rw [show named = true from hnew] at hold
    cases hold
  comparable := Profile.isComparable_congr rfl rfl
  wildcard wildcard hwildcard := by
    refine elementWildcard?_of_exchanged h (by rfl) (by rfl) ?_ htoken hwildcard
    rw [Node.contentOfFields_around, Node.contentOfFields_around]
    exact hcontent.around _ _
  related file hfile := hfile.around hvalue hgeneral hrelated

/-- A node is widened if its single child in a field is. -/
theorem Widens.child (h : criteria.Widens old new) :
    criteria.Widens ⟨kind, span, named, text, front ++ (name, .child (some old)) :: back⟩
      ⟨kind, span, named, text, front ++ (name, .child (some new)) :: back⟩ := by
  refine h.around False nofun nofun .only False.elim fun actual hactual => ?_
  cases hactual with
  | child hrelated => exact .child (h.related _ hrelated)

/-- What an element takes a widened one takes, unless this takes any piece. -/
theorem Widens.takes (h : criteria.Widens old new) {file : Node} (htakes : criteria.Takes old file) :
    criteria.profile.elementWildcard? new = some .rest ∨ criteria.Takes new file := by
  cases htakes with
  | any hsingle => exact Or.inr (.any (h.wildcard _ hsingle))
  | node _ hrelated =>
      match hnew : criteria.profile.elementWildcard? new with
      | some .rest => exact Or.inl rfl
      | some .single => exact Or.inr (.any hnew)
      | none => exact Or.inr (.node hnew (h.related file hrelated))

/-- A node is widened if an element of a sequence in a field is, unless it is a wildcard for any number
of nodes and the element was a token and is none any more. -/
theorem Widens.element {first last : List Node} (h : criteria.Widens old new)
    (hrest : old.named = new.named ∨ criteria.profile.nodeWildcard? ⟨kind, span, named, text,
      front ++ (name, .sequence (first ++ old :: last)) :: back⟩ ≠ some .rest) :
    criteria.Widens ⟨kind, span, named, text,
        front ++ (name, .sequence (first ++ old :: last)) :: back⟩
      ⟨kind, span, named, text, front ++ (name, .sequence (first ++ new :: last)) :: back⟩ := by
  refine h.around (old.named = false ∧ new.named = true) nofun nofun ?content ?token
    fun actual hactual => ?related
  case content =>
    match first, last with
    | [], [] =>
        rw [List.nil_append, List.nil_append, Node.contentOfValue, Node.contentOfValue]
        cases hold : old.named with
        | true => simpa [h.named hold] using .only
        | false =>
            cases hnew : new.named with
            | true => simpa using .token trivial
            | false => exact .more
    | [], _ :: _ => exact .more
    | _ :: first, _ => cases first <;> exact .more
  case token =>
    rintro ⟨hold, hnew⟩
    refine ⟨hold, hnew, hrest.resolve_left fun hsame => ?_⟩
    rw [hold, hnew] at hsame
    cases hsame
  case related =>
    cases hactual with
    | sequence haligned =>
        refine .sequence ?_
        rw [List.filter_append, List.filter_cons] at haligned ⊢
        rw [h.comparable]
        split at haligned <;> rename_i hcomparable
        · rw [if_pos hcomparable]
          exact haligned.exchange (h.wildcard _) fun file htakes => h.takes htakes
        · rw [if_neg hcomparable]
          exact haligned

end Around

/-! ### The edits widen -/

/-- A text still describes what it described if `$` takes the place of a part of it. -/
theorem textMatches_generalise (hcase : criteria.caseInsensitive = false) {text general : String}
    {front part back : List Char} (hold : text.toList = front ++ (part ++ back))
    (hnew : general.toList = front ++ '$' :: back) {file : Option String}
    (h : criteria.textMatches (some text) file = true) :
    criteria.textMatches (some general) file = true := by
  cases file with
  | none => simp [textMatches] at h
  | some actual =>
      simp only [textMatches, fold, hcase, Bool.false_eq_true, ↓reduceIte] at h ⊢
      exact fragmentsMatch_generalise hold hnew h

section Edits

variable (hapart : criteria.profile.KeepsApart)
include hapart

/-- Names take part in comparisons. -/
theorem isComparable_of_isIdentifier {node : Node} (hname : criteria.profile.isIdentifier node) :
    criteria.profile.isComparable node = true := by
  simp [Profile.isComparable, (hapart.isNot_of_isIdentifier hname).2.2]

/-- A node is widened if `$$` takes its place. -/
theorem widens_of_singleLeaf (hcomparable : criteria.profile.isComparable old)
    (hrest : ∀ inner ∈ old.walk, criteria.profile.nodeWildcard? inner ≠ some .rest)
    (hnew : criteria.profile.IsSingleLeaf new) : criteria.Widens old new := by
  have hself : criteria.profile.nodeWildcard? new = some .single := by
    rw [Profile.nodeWildcard?, if_pos (by simp [hnew.name]), hnew.text]
    rfl
  have hsingle : criteria.profile.elementWildcard? new = some .single := by
    rw [Profile.elementWildcard?, Node.innermost_of_none, hself]
    rw [Node.soleChild?, hnew.fields]
    rfl
  refine ⟨fun _ => hnew.named, fun _ _ => hsingle, ?_, fun wildcard hwildcard => ?_, fun file _ => ?_⟩
  · rw [isComparable_of_isIdentifier hapart hnew.name, hcomparable]
  · cases wildcard with
    | single => exact hsingle
    | rest => exact absurd hwildcard (hrest _ old.innermost_mem_walk)
  · refine .settled (Or.inl ?_) ?_
    · rw [hself]
      rfl
    · simp [compareLevel, hself]

/-- A name is widened if `$` takes the place of a part of it. -/
theorem widens_of_text (hcase : criteria.caseInsensitive = false) {text general : String}
    {front part back : List Char} (hname : criteria.profile.isIdentifier old)
    (htext : old.text = some text) (hsingle : text ≠ "$$") (hrest : text ≠ "$$$")
    (hold : text.toList = front ++ (part ++ back)) (hnew : general.toList = front ++ '$' :: back) :
    criteria.Widens old { old with text := some general } := by
  have hnone : criteria.profile.nodeWildcard? old = none := by
    rw [Profile.nodeWildcard?, if_pos (by simp [hname]), htext, Option.bind_some,
      NodeWildcard.ofText?, if_neg hsingle, if_neg hrest]
  have hnewName : criteria.profile.isIdentifier { old with text := some general } := hname
  refine ⟨id, fun hold hnew => ?_, ?_, fun wildcard hwildcard => ?_, fun file hfile => ?_⟩
  · rw [show old.named = true from hnew] at hold
    cases hold
  · rw [isComparable_of_isIdentifier hapart hname, isComparable_of_isIdentifier hapart hnewName]
  · -- A name that is no wildcard itself can only be one through its sole child, which stays.
    unfold Profile.elementWildcard? at hwildcard ⊢
    cases hsole : old.soleChild? with
    | none =>
        rw [Node.innermost_of_none hsole, hnone] at hwildcard
        cases hwildcard
    | some child =>
        rw [Node.innermost_of_some hsole] at hwildcard
        have hstays : { old with text := some general }.innermost = child.innermost :=
          Node.innermost_of_some hsole
        rwa [hstays]
  · cases hfile with
    | fields halone => exact absurd (Or.inr (Or.inl hname)) halone
    | settled _ hlevel =>
        obtain ⟨hfile, halternatives, hmatch⟩ :=
          (settled_iff_of_isIdentifier hnone file hname).mp hlevel
        rw [htext] at hmatch
        have hgeneral := textMatches_generalise hcase hold hnew hmatch
        refine .settled (Or.inr (Or.inl hnewName)) ?_
        cases hwildcard : criteria.profile.nodeWildcard? { old with text := some general } with
        | some wildcard => simp [compareLevel, hwildcard]
        | none =>
            exact (settled_iff_of_isIdentifier hwildcard file hnewName).mpr
              ⟨hfile, halternatives, hgeneral⟩

/-- A node that is generalised is widened. -/
theorem widens_of_generalises (hcase : criteria.caseInsensitive = false)
    (h : criteria.profile.Generalises old new) : criteria.Widens old new := by
  cases h with
  | node hcomparable hrest hnew => exact widens_of_singleLeaf hapart hcomparable hrest hnew
  | text hname htext hsingle hrest hold hnew =>
      exact widens_of_text hapart hcase hname htext hsingle hrest hold hnew

end Edits

/-- **A widened node widens those around it.**  This holds whatever stands around, unless a token right
below a wildcard for any number of nodes becomes a node with a name. -/
theorem Widens.exchanged {parent : Option Node} {before after : Node}
    (h : criteria.Widens old new) (hexchanged : Node.ExchangedBelow old new parent before after)
    (hplace : old.named = new.named ∨ ∀ node ∈ parent,
      criteria.profile.nodeWildcard? node ≠ some .rest) : criteria.Widens before after := by
  have hlater : ∀ {parent : Option Node} {around node : Node}, node ∈ parent →
      node ∈ some (parent.getD around) := by
    intro parent around node hnode
    rw [Option.mem_def.mp hnode]
    rfl
  induction hexchanged with
  | here => exact h
  | child kind span named text front back name hbelow ih =>
      exact (ih (hplace.imp_right fun hparent node hnode => hparent node (hlater hnode))).child
  | element kind span named text front back name first last hbelow ih =>
      have hwidens := ih (hplace.imp_right fun hparent node hnode => hparent node (hlater hnode))
      refine hwidens.element ?_
      rcases hbelow.named_eq with heq | ⟨rfl, rfl, rfl⟩
      · exact Or.inl heq
      · exact hplace.imp_right fun hparent => hparent _ rfl

/-- **Generalised queries match.**  In exact mode and with upper and lower case told apart, a built query
that matches a built file still matches it when `$$` takes the place of one of its nodes, if `$$$` is
not in it, or `$` the place of a part of a name.  The tokens of the file are of kinds without fields,
and the node for which `$$` comes in is no token right below a name `$$$`. -/
theorem matches_generalised {grammar : Grammar} (hapart : grammar.profile.KeepsApart)
    {old new query general file : Node} {parent : Option Node}
    (hquery : grammar.BuildsQuery query) (hfile : grammar.Builds file)
    (hbare : file.Everywhere grammar.layout.BareToken)
    (hexchanged : Node.ExchangedBelow old new parent query general)
    (hgeneralises : grammar.profile.Generalises old new)
    (hplace : old.named = new.named ∨ ∀ node ∈ parent,
      grammar.profile.nodeWildcard? node ≠ some .rest) (tally other : Tally)
    (hmatch : (validate ⟨grammar.profile, .exact, false⟩ query file tally).1 = .ok true) :
    (validate ⟨grammar.profile, .exact, false⟩ general file other).1 = .ok true := by
  have hcovers := hfile.everywhere_covers hbare
  have hgeneral : general.Everywhere grammar.layout.Allows :=
    hexchanged.everywhere_allows hgeneralises.everywhere_allows hquery.everywhere_allows
  rw [validate_fst_eq] at hmatch ⊢
  rw [verdict_iff_related_of_allows rfl hquery.everywhere_allows hcovers] at hmatch
  rw [verdict_iff_related_of_allows rfl hgeneral hcovers]
  have hwidens : Widens ⟨grammar.profile, .exact, false⟩ old new :=
    widens_of_generalises hapart rfl hgeneralises
  exact (hwidens.exchanged hexchanged hplace).related file hmatch

end Criteria

namespace Calls

/-- The tree of `f($$$,g(xy,h(a)))`, also with two other letters in the place of `xy`. -/
def nestedQuery : ParseTree :=
  program 16 [name 2 5, call 6 15 [name 8 10, call 11 15 [name 13 14]]]

/-- The tree of `f(g(zz,b),g(xy,h(a)))`. -/
def nestedFile : ParseTree :=
  program 21 [call 2 9 [name 4 6, name 7 8], call 10 20 [name 12 14, call 15 19 [name 17 18]]]

/-- The tree of `f(g(zz,call),g(xy,h(a)))`. -/
def nestedWord : ParseTree :=
  program 24 [call 2 12 [name 4 6, word 7 11], call 13 23 [name 15 17, call 18 22 [name 20 21]]]

/-- The node of a name. -/
def nameNode (text : String) (start stop : Nat) : Node :=
  { kind := "name", span := (name start stop).span, text := some text }

/-- The node of a call. -/
def callNode (function : String) (start stop : Nat) (arguments : List Node) : Node :=
  { kind := "call", span := (call start stop []).span,
    fields := [("argument", .sequence arguments),
      ("function", .child (some (nameNode function start (start + 1))))] }

/-- The node of `f($$$,g(xy,h(a)))`, by the texts of its names. -/
def nestedNode (f rest g xy h a : String) : Node :=
  { kind := "program", span := (program 16 []).span,
    fields := [("children", .sequence [callNode f 0 16 [nameNode rest 2 5,
      callNode g 6 15 [nameNode xy 8 10, callNode h 11 15 [nameNode a 13 14]]]])] }

/-- In `f($$$,g(xy,h(a)))` a wildcard takes the place of `xy`, or `$` that of `y`. -/
theorem exchanged_nested :
    let query := fun text => queryNodeOf text nestedQuery
    Node.Exchanged (nameNode "xy" 8 10) (nameNode "$$" 8 10)
      (query "f($$$,g(xy,h(a)))") (query "f($$$,g($$,h(a)))") ∧
    Node.Exchanged (nameNode "xy" 8 10) (nameNode "x$" 8 10)
      (query "f($$$,g(xy,h(a)))") (query "f($$$,g(x$,h(a)))") := by
  have hexchanged : ∀ new, Node.Exchanged (nameNode "xy" 8 10) (nameNode new 8 10)
      (nestedNode "f" "$$$" "g" "xy" "h" "a") (nestedNode "f" "$$$" "g" new "h" "a") := fun _ =>
    ⟨_, .element _ _ _ _ [] _ _ [] []
      (.element _ _ _ _ [] _ _ [_] [] (.element _ _ _ _ [] _ _ [] [_] .here))⟩
  have hold : queryNodeOf "f($$$,g(xy,h(a)))" nestedQuery =
      nestedNode "f" "$$$" "g" "xy" "h" "a" := rfl
  have hwildcard : queryNodeOf "f($$$,g($$,h(a)))" nestedQuery =
      nestedNode "f" "$$$" "g" "$$" "h" "a" := rfl
  have hpart : queryNodeOf "f($$$,g(x$,h(a)))" nestedQuery =
      nestedNode "f" "$$$" "g" "x$" "h" "a" := rfl
  intro query
  simp only [query, hold, hwildcard, hpart]
  exact ⟨hexchanged "$$", hexchanged "x$"⟩

/-- Both make the name more general. -/
theorem generalises_nested :
    profile.Generalises (nameNode "xy" 8 10) (nameNode "$$" 8 10) ∧
    profile.Generalises (nameNode "xy" 8 10) (nameNode "x$" 8 10) := by
  constructor
  · exact .node (by decide +kernel) (by decide +kernel) ⟨by decide +kernel, rfl, rfl, rfl⟩
  · have hold : "xy".toList = ['x'] ++ (['y'] ++ []) := rfl
    have hnew : "x$".toList = ['x'] ++ '$' :: [] := rfl
    exact .text (by decide +kernel) rfl (by decide) (by decide) hold hnew

/-- The language of calls with names that may have parts. -/
def partedGrammar : Grammar where
  profile := { profile with identifierKinds := ["name", "part"] }
  layout := { kinds := ("name", { multiple := ["part"] }) :: layout.kinds }
  parser := grammar.parser

/-- A tree of `f($$$)` whose name has a part. -/
def partedRest (kind : String) (named : Bool) : ParseTree :=
  program 6 [{ name 2 5 with children := [{ tree kind (some "part") 3 5 [] with named := named }] }]

/-- The node of the query with this tree. -/
def partedQuery (kind : String) (named : Bool) : Node :=
  ((partedGrammar.builder "f($$$)").build (partedRest kind named)).mapText
    partedGrammar.profile.decodeText

/-- The node of `f(b,c)`. -/
def partedFile : Node :=
  (partedGrammar.builder "f(b,c)").build (program 6 [name 2 3, name 4 5])

/-- A part that is a token gives way to a name. -/
theorem exchanged_parted :
    Node.Exchanged (Node.ofToken "mark" "$$" (name 3 5).span)
      { nameNode "$$" 3 5 with kind := "part" } (partedQuery "mark" false)
      (partedQuery "part" true) := by
  exact ⟨_, .element _ _ _ _ [] _ _ [] []
    (.element _ _ _ _ [] _ _ [] [] (.element _ _ _ _ [] _ _ [] [] .here))⟩

end Calls

namespace Criteria

/-- `f($$$,g(xy,h(a)))` matches `f(g(zz,b),g(xy,h(a)))`, and so it does with `$$` or `x$` for
`xy`. -/
theorem calls_match_generalised :
    let exact : Criteria := ⟨Calls.profile, .exact, false⟩
    let query := fun text => Calls.queryNodeOf text Calls.nestedQuery
    let file := Calls.nodeOf "f(g(zz,b),g(xy,h(a)))" Calls.nestedFile
    (exact.validate (query "f($$$,g(xy,h(a)))") file {}).1 = .ok true ∧
    (exact.validate (query "f($$$,g($$,h(a)))") file {}).1 = .ok true ∧
    (exact.validate (query "f($$$,g(x$,h(a)))") file {}).1 = .ok true := by
  have hquery := Calls.buildsQuery_queryNodeOf "f($$$,g(xy,h(a)))" Calls.nestedQuery
  have hfile := Calls.builds_nodeOf "f(g(zz,b),g(xy,h(a)))" Calls.nestedFile
  have hmatch : (Criteria.validate ⟨Calls.profile, .exact, false⟩
      (Calls.queryNodeOf "f($$$,g(xy,h(a)))" Calls.nestedQuery)
      (Calls.nodeOf "f(g(zz,b),g(xy,h(a)))" Calls.nestedFile) {}).1 = .ok true := by decide +kernel
  have hapart : Calls.profile.KeepsApart := ⟨by decide, by decide⟩
  obtain ⟨⟨parent, hwildcard⟩, ⟨parent', hpart⟩⟩ := Calls.exchanged_nested
  exact ⟨hmatch,
    matches_generalised hapart hquery hfile (by decide +kernel) hwildcard
      Calls.generalises_nested.1 (Or.inl rfl) {} {} hmatch,
    matches_generalised hapart hquery hfile (by decide +kernel) hpart
      Calls.generalises_nested.2 (Or.inl rfl) {} {} hmatch⟩

/-- A match can be lost in two ways.  In the file `f(g(zz,call),g(xy,h(a)))` the name `xy` kept exact
mode from going on to the word `call`, and `$$` does not.  A name `$$$` with a token below it stands
for any number of arguments, and with `$$` for the token for one. -/
theorem generalised_match_lost :
    (let exact : Criteria := ⟨Calls.profile, .exact, false⟩
      let query := fun text => Calls.queryNodeOf text Calls.nestedQuery
      let file := Calls.nodeOf "f(g(zz,call),g(xy,h(a)))" Calls.nestedWord
      Calls.grammar.BuildsQuery (query "f($$$,g(xy,h(a)))") ∧ Calls.grammar.Builds file ∧
      Node.Exchanged (Calls.nameNode "xy" 8 10) (Calls.nameNode "$$" 8 10)
        (query "f($$$,g(xy,h(a)))") (query "f($$$,g($$,h(a)))") ∧
      Calls.profile.Generalises (Calls.nameNode "xy" 8 10) (Calls.nameNode "$$" 8 10) ∧
      (exact.validate (query "f($$$,g(xy,h(a)))") file {}).1 = .ok true ∧
      (exact.validate (query "f($$$,g($$,h(a)))") file {}).1 ≠ .ok true) ∧
    (let exact : Criteria := ⟨Calls.partedGrammar.profile, .exact, false⟩
      let old := Node.ofToken "mark" "$$" (Calls.name 3 5).span
      let new : Node := { Calls.nameNode "$$" 3 5 with kind := "part" }
      Calls.partedGrammar.BuildsQuery (Calls.partedQuery "mark" false) ∧
      Calls.partedGrammar.Builds Calls.partedFile ∧
      Calls.partedFile.Everywhere Calls.partedGrammar.layout.BareToken ∧
      Node.Exchanged old new (Calls.partedQuery "mark" false) (Calls.partedQuery "part" true) ∧
      Calls.partedGrammar.profile.Generalises old new ∧
      (exact.validate (Calls.partedQuery "mark" false) Calls.partedFile {}).1 = .ok true ∧
      (exact.validate (Calls.partedQuery "part" true) Calls.partedFile {}).1 ≠ .ok true) := by
  constructor
  · exact ⟨Calls.buildsQuery_queryNodeOf _ _, Calls.builds_nodeOf _ _, Calls.exchanged_nested.1,
      Calls.generalises_nested.1, by decide +kernel, by decide +kernel⟩
  · have hgeneralises : Calls.partedGrammar.profile.Generalises
        (Node.ofToken "mark" "$$" (Calls.name 3 5).span)
        { Calls.nameNode "$$" 3 5 with kind := "part" } :=
      .node (by decide +kernel) (by decide +kernel) ⟨by decide +kernel, rfl, rfl, rfl⟩
    exact ⟨⟨_, _, Node.mem_walk_self _⟩, ⟨_, _, Node.mem_walk_self _⟩, by decide +kernel,
      Calls.exchanged_parted, hgeneralises, by decide +kernel, by decide +kernel⟩

end Criteria

end StructuralSearch
