import StructuralSearch.Proofs.Verdict

/-!
# Changes that matching overlooks

A match looks at some of what a file node holds only: its kind, its fields, and its text as far as it
is compared.  A change of the nodes of a file that leaves this alone (`Criteria.Overlooks`) has no
influence on matching, whatever the query is and in all modes (`Criteria.Overlooks.validate_eq`).

The searches in sequences do not look at the file elements themselves, but only at what the wanted
elements say about them.  So they find in a list of changed elements what they find in the list
(`Sequence.glob_map`, `Sequence.claim_map`).
-/

namespace StructuralSearch

namespace FieldValue

variable {α β γ : Type}

/-- Applies `g` to the nodes in a field. -/
def map (g : α → β) : FieldValue α → FieldValue β
  | token text => token text
  | child node => child (node.map g)
  | sequence nodes => sequence (nodes.map g)

theorem map_map (g : α → β) (h : β → γ) (value : FieldValue α) :
    (value.map g).map h = value.map (h ∘ g) := by
  cases value <;> simp [map]

/-- A field is changed alike by functions that agree on its nodes. -/
theorem map_congr {g h : α → β} {value : FieldValue α} (hagree : ∀ a ∈ value.nodes, g a = h a) :
    value.map g = value.map h := by
  rcases value with text | (_ | node) | nodes
  · rfl
  · rfl
  · exact congrArg (child ∘ some) (hagree node List.mem_cons_self)
  · exact congrArg sequence (List.map_congr_left hagree)

end FieldValue

/-! ### Searches in lists that were changed -/

namespace Sequence

variable {m : Type → Type} [Monad m] {α : Type} {g : α → α}

/-- Looking for a suffix in a changed list, with a test that takes no notice of the change. -/
theorem someSuffix_map {test : List α → m Bool} (htest : ∀ part, test (part.map g) = test part)
    (file : List α) : someSuffix test (file.map g) = someSuffix test file := by
  induction file with
  | nil => exact htest []
  | cons x file ih =>
      rw [List.map_cons, someSuffix, someSuffix, ih, ← List.map_cons, htest]

theorem globFrom_map {query : List (Wanted m α)}
    (hquery : ∀ wanted ∈ query, ∀ x, wanted.accepts (g x) = wanted.accepts x) (file : List α) :
    globFrom query (file.map g) = globFrom query file := by
  induction query generalizing file with
  | nil => simp [globFrom]
  | cons wanted query ih =>
      have hlater := ih fun other hother => hquery other (List.mem_cons_of_mem _ hother)
      cases hrest : wanted.isRest with
      | true =>
          rw [globFrom_rest hrest, globFrom_rest hrest]
          exact someSuffix_map hlater file
      | false =>
          cases file with
          | nil => rfl
          | cons x file =>
              rw [List.map_cons, globFrom_cons hrest, globFrom_cons hrest,
                hquery wanted List.mem_cons_self x, hlater file]

/-- Globbing takes no notice of a change of which the wanted elements take none. -/
theorem glob_map {query : List (Wanted m α)}
    (hquery : ∀ wanted ∈ query, ∀ x, wanted.accepts (g x) = wanted.accepts x) (file : List α) :
    glob query (file.map g) = glob query file := by
  rw [glob, glob, List.length_map, globFrom_map hquery]

variable [LawfulMonad m]

theorem takeFirst_map {accepts : α → m Bool} (haccepts : ∀ x, accepts (g x) = accepts x)
    (free : List (Nat × α)) :
    takeFirst accepts (free.map (Prod.map id g)) =
      Option.map (Prod.map id (List.map (Prod.map id g))) <$> takeFirst accepts free := by
  induction free with
  | nil => simp [takeFirst]
  | cons entry free ih =>
      obtain ⟨index, x⟩ := entry
      rw [List.map_cons, Prod.map_apply, id_eq, takeFirst, takeFirst, haccepts, ih, map_bind]
      refine bind_congr fun found => ?_
      cases found with
      | true => simp
      | false =>
          simp only [Bool.false_eq_true, ↓reduceIte, map_bind, bind_map_left]
          refine bind_congr fun later => ?_
          cases later <;> simp

theorem claimEach_map {pending : List (Nat × Wanted m α)}
    (hpending : ∀ entry ∈ pending, ∀ x, entry.2.accepts (g x) = entry.2.accepts x)
    (free : List (Nat × α)) :
    claimEach pending (free.map (Prod.map id g)) = claimEach pending free := by
  induction pending generalizing free with
  | nil => simp [claimEach]
  | cons entry pending ih =>
      obtain ⟨order, wanted⟩ := entry
      have hlater := ih fun other hother => hpending other (List.mem_cons_of_mem _ hother)
      rw [claimEach, claimEach, takeFirst_map (hpending _ List.mem_cons_self), bind_map_left]
      refine bind_congr fun taken => ?_
      cases taken with
      | none => rfl
      | some claimed => simp only [Option.map_some, Prod.map_fst, Prod.map_snd, id_eq, hlater]

/-- Claiming takes no notice of a change of which the wanted elements take none. -/
theorem claim_map (ordered : Bool) {query : List (Wanted m α)}
    (hquery : ∀ wanted ∈ query, ∀ x, wanted.accepts (g x) = wanted.accepts x) (file : List α) :
    claim ordered query (file.map g) = claim ordered query file := by
  have hindexed : indexed (file.map g) = (indexed file).map (Prod.map id g) := by
    simp [indexed, List.zipIdx_map, Function.comp_def]
  simp only [claim, List.length_map, hindexed]
  rw [claimEach_map fun entry hentry => hquery entry.2 (mem_of_mem_claimOrder hentry)]

end Sequence

/-! ### Changes of trees -/

namespace Criteria

variable {criteria : Criteria} {g : Node → Node}

/-- What is compared of a node stays when `g` changes it: its kind, its fields with what is in them
changed as well, its text in the form in which it is compared, and whether it takes part in
comparisons. -/
structure Overlooks (criteria : Criteria) (g : Node → Node) : Prop where
  kind : ∀ node, (g node).kind = node.kind
  field? : ∀ node name, (g node).field? name = (node.field? name).map (.map g)
  /-- the texts of names, literals and free text are compared folded -/
  folded : ∀ node, (g node).text.map criteria.fold = node.text.map criteria.fold
  /-- the texts of other nodes are compared as they stand -/
  plain : ∀ node, criteria.profile.keepsText node.kind = false → (g node).text = node.text
  comparable : ∀ node, criteria.profile.isComparable (g node) = criteria.profile.isComparable node

/-- Texts that are folded alike are described alike. -/
theorem textMatches_congr (query : Option String) {a b : Option String}
    (h : a.map criteria.fold = b.map criteria.fold) :
    criteria.textMatches query a = criteria.textMatches query b := by
  cases a with
  | none =>
      cases b with
      | none => rfl
      | some other => cases h
  | some text =>
      cases b with
      | none => cases h
      | some other =>
          cases query with
          | none => rfl
          | some pattern =>
              exact congrArg (fragmentsMatch (criteria.fold pattern)) (Option.some.inj h)

/-- Numbers that are folded alike are described alike. -/
theorem numberMatches_congr (query : Option String) {a b : Option String}
    (h : a.map criteria.fold = b.map criteria.fold) :
    criteria.numberMatches query a = criteria.numberMatches query b := by
  cases a with
  | none =>
      cases b with
      | none => rfl
      | some other => cases h
  | some value =>
      cases b with
      | none => cases h
      | some other =>
          cases query with
          | none => rfl
          | some wanted =>
              exact congrArg (wanted == numberWildcard || criteria.fold wanted == ·)
                (Option.some.inj h)

namespace Overlooks

/-- The value of a literal is folded alike. -/
theorem folded_literalValue? (h : criteria.Overlooks g) (file : Node) :
    (criteria.profile.literalValue? (g file)).map criteria.fold =
      (criteria.profile.literalValue? file).map criteria.fold := by
  unfold Profile.literalValue? Profile.isString Profile.isNumber Profile.isText
  rw [h.kind file]
  split
  · exact h.folded file
  · rfl

/-- A comparison at one level takes no notice of the change. -/
theorem compareLevel_eq (h : criteria.Overlooks g) (file query : Node) :
    criteria.compareLevel (g file) query = criteria.compareLevel file query := by
  have hkind := h.kind file
  simp only [compareLevel, sameLiteralFamily, Profile.isIdentifier, Profile.isString,
    Profile.isText, Profile.isNumber, hkind]
  refine ite_congr rfl (fun _ => rfl) fun _ => ite_congr rfl (fun _ => ?name) fun hname =>
    ite_congr rfl (fun _ => ?literal) fun hliteral => ite_congr rfl (fun _ => ?number)
      fun hnumber => ?outside
  case name => rw [textMatches_congr query.text (h.folded file)]
  case literal => rw [textMatches_congr _ (h.folded_literalValue? file)]
  case number => rw [numberMatches_congr _ (h.folded_literalValue? file)]
  case outside =>
    have htexts : (criteria.profile.areAlternatives query.kind file.kind &&
        textsAgree (g file) query) =
      (criteria.profile.areAlternatives query.kind file.kind && textsAgree file query) := by
      cases hkinds : criteria.profile.areAlternatives query.kind file.kind with
      | false => rfl
      | true =>
          have hsame : query.kind = file.kind :=
            (areAlternatives_iff_of_not_identifier hname).mp hkinds
          have hplain : criteria.profile.keepsText file.kind = false := by
            rw [← hsame]
            simp_all [Profile.keepsText]
          rw [textsAgree, h.plain file hplain, textsAgree]
    have hkeywords : keywordsAgree (g file) query = keywordsAgree file query := by
      simp [keywordsAgree, h.field?]
    have htokens : tokensAgree (g file) query = tokensAgree file query := by
      refine List.all_congr rfl fun entry => ?_
      obtain ⟨name, value⟩ := entry
      simp only [h.field?]
      cases file.field? name with
      | none => rfl
      | some actual => cases actual <;> rfl
    simp only [htexts, hkeywords, htokens, h.field?, Option.isSome_map]

/-- Values are matched alike whether the nodes in the file's value are changed or not, if the nodes in
the query's value are. -/
theorem validateValue_eq (h : criteria.Overlooks g) {value : FieldValue Node}
    (hnodes : ∀ child ∈ value.nodes, ∀ file,
      criteria.validate child (g file) = criteria.validate child file)
    (actual : FieldValue Node) :
    criteria.validateValue value (actual.map g) = criteria.validateValue value actual := by
  rcases actual with text | (_ | file) | files
  · rfl
  · rfl
  · rcases value with text | (_ | query) | queries
    · rfl
    · rfl
    · exact hnodes query (List.mem_singleton_self _) file
    · rfl
  · rcases value with text | (_ | query) | queries
    · rfl
    · rfl
    · rfl
    · have haccepts : ∀ wanted ∈ criteria.wantedAll queries, ∀ file,
          wanted.accepts (g file) = wanted.accepts file := by
        intro wanted hwanted file
        rw [wantedAll_eq_map] at hwanted
        obtain ⟨query, hquery, rfl⟩ := List.mem_map.mp hwanted
        simp only [wantedOf, hnodes query (List.mem_of_mem_filter hquery) file]
      have hcomparable : (files.map g).filter criteria.profile.isComparable =
          (files.filter criteria.profile.isComparable).map g := by
        rw [List.filter_map]
        simp only [Function.comp_def, h.comparable]
      simp only [FieldValue.map, validateValue, matchSequence, hcomparable,
        Sequence.glob_map haccepts, Sequence.claim_map _ haccepts]

/-- **The change is of no account.**  Matching takes the same course: the induction is on the query,
which decides what is looked at in the file. -/
theorem validate_eq (h : criteria.Overlooks g) (query file : Node) :
    criteria.validate query (g file) = criteria.validate query file := by
  induction query using Node.induction_on_children generalizing file with
  | step query ih =>
      have hfields : ∀ fields : List (String × FieldValue Node),
          (∀ entry ∈ fields, ∀ child ∈ entry.2.nodes, child ∈ query.children) →
          criteria.validateFields fields (g file) = criteria.validateFields fields file := by
        intro fields
        induction fields with
        | nil => intro _; rfl
        | cons entry fields ihfields =>
            intro hbelow
            obtain ⟨name, value⟩ := entry
            have hlater := ihfields fun entry hentry =>
              hbelow entry (List.mem_cons_of_mem _ hentry)
            have hvalue : ∀ actual : FieldValue Node,
                criteria.validateValue value (actual.map g) = criteria.validateValue value actual :=
              h.validateValue_eq fun child hchild file =>
                ih child (hbelow _ List.mem_cons_self child hchild) file
            rw [validateFields_cons, validateFields_cons, h.field?, hlater]
            cases file.field? name with
            | none => rfl
            | some actual => simp only [Option.map_some, hvalue]
      rw [Criteria.validate_eq, Criteria.validate_eq]
      simp only [compareNodes, h.compareLevel_eq, h.kind]
      rw [hfields query.fields fun entry hentry child hchild =>
        Node.mem_children_iff.mpr ⟨entry.1, entry.2, hentry, hchild⟩]

end Overlooks

end Criteria

end StructuralSearch
