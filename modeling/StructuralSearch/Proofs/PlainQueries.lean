import StructuralSearch.Proofs.FragmentPatterns
import StructuralSearch.Proofs.ModeOrder
import StructuralSearch.Proofs.SureSearch

/-!
# Queries without wildcards

In a query without `$` no element is a wildcard and all elements are equally specific, so those of a
sequence choose in the order in which they stand.  What such a query matches in a stricter mode is
then claimed in a known way in the others.

Where exact mode accepts two sequences, each element of the query accepts the file element at its own
place.  Its claim goes there whatever the other file elements would do, because nobody asks about
them.  Where order is kept, the claims without order are not behind the claims with order
(`exists_claim_of_undisturbed`).  This passes down the trees to all pairs of sequences that are
matched on the way (`Criteria.Meets`).
-/

namespace StructuralSearch

namespace Node

/-- The sole child is a child. -/
theorem mem_children_of_soleChild? {node child : Node} (h : node.soleChild? = some child) :
    child ∈ node.children := by
  have hvalue : ∀ value : FieldValue Node, contentOfValue value = .only child →
      child ∈ value.nodes := by
    intro value hcontent
    unfold contentOfValue at hcontent
    split at hcontent <;> try cases hcontent
    · exact List.mem_singleton_self _
    · split at hcontent <;> cases hcontent
      exact List.mem_singleton_self _
  have hfields : ∀ fields : List (String × FieldValue Node), contentOfFields fields = .only child →
      ∃ name value, (name, value) ∈ fields ∧ child ∈ value.nodes := by
    intro fields
    induction fields with
    | nil => intro hcontent; cases hcontent
    | cons entry fields ih =>
        obtain ⟨name, value⟩ := entry
        intro hcontent
        rcases Content.append_eq_only hcontent with ⟨hhere, -⟩ | ⟨-, hthere⟩
        · exact ⟨name, value, List.mem_cons_self, hvalue value hhere⟩
        · obtain ⟨other, held, hmem, hchild⟩ := ih hthere
          exact ⟨other, held, List.mem_cons_of_mem _ hmem, hchild⟩
  unfold soleChild? at h
  split at h
  · rename_i found hcontent
    obtain rfl := Option.some.inj h
    exact mem_children_iff.mpr (hfields _ hcontent)
  · cases h

/-- The node inside all wrappers is visited. -/
theorem innermost_mem_walk (node : Node) : node.innermost ∈ node.walk := by
  induction node using induction_on_children with
  | step node ih =>
      rw [innermost]
      split
      · rename_i child hchild
        have hmem := mem_children_of_soleChild? hchild
        exact mem_walk_trans (ih child hmem) (mem_walk_of_mem_children hmem)
      · exact mem_walk_self node

/-- No text in a tree holds `$`. -/
def Plain (node : Node) : Prop :=
  node.Everywhere fun inner => ∀ text ∈ inner.text, hasWildcard text = false

instance decidablePlain (node : Node) : Decidable node.Plain :=
  inferInstanceAs (Decidable (node.Everywhere fun inner =>
    ∀ text ∈ inner.text, hasWildcard text = false))

/-- No text below the elements of a sequence holds `$`, if none does in the tree around it. -/
theorem Plain.of_mem_sequence {node : Node} (h : node.Plain) {name : String} {nodes : List Node}
    (hmem : (name, .sequence nodes) ∈ node.fields) : ∀ inner ∈ nodes, inner.Plain :=
  fun _ hinner => h.child (mem_children_iff.mpr ⟨name, _, hmem, hinner⟩)

end Node

namespace Profile

variable {profile : Profile} {node : Node}

/-- A node without `$` is no wildcard. -/
theorem nodeWildcard?_of_plain (h : ∀ text ∈ node.text, hasWildcard text = false) :
    profile.nodeWildcard? node = none := by
  unfold nodeWildcard?
  split
  · cases htext : node.text with
    | none => rfl
    | some text =>
        have hplain := h text htext
        rw [Option.bind_some, NodeWildcard.ofText?, if_neg, if_neg]
        · rintro rfl
          exact absurd hplain (by decide)
        · rintro rfl
          exact absurd hplain (by decide)
  · rfl

/-- An element without `$` is no wildcard. -/
theorem elementWildcard?_of_plain (h : node.Plain) : profile.elementWildcard? node = none :=
  nodeWildcard?_of_plain (h _ node.innermost_mem_walk)

end Profile

namespace Sequence

variable {ε α : Type} {query : List (Wanted (Except ε) α)} {file : List α}

/-- Elements that accept what stands at their own places claim just that. -/
theorem claimEach_of_forall₂
    (h : List.Forall₂ (fun wanted x => wanted.accepts x = .ok true) query file) (start : Nat) :
    claimEach ((query.zipIdx start).map Prod.swap) ((file.zipIdx start).map Prod.swap) =
      .ok (some ((List.range' start query.length).map fun i => (i, i))) := by
  induction h generalizing start with
  | nil => rfl
  | @cons wanted x query file haccepts _ ih =>
      have hfirst : takeFirst wanted.accepts (((x :: file).zipIdx start).map Prod.swap) =
          .ok (some (start, (file.zipIdx (start + 1)).map Prod.swap)) := by
        simp [takeFirst, haccepts, bind, Except.bind, pure, Except.pure]
      rw [List.zipIdx_cons, List.map_cons, Prod.swap_prod_mk, claimEach, hfirst]
      simp only [bind, Except.bind, ih, List.length_cons, List.range'_succ, List.map_cons]
      rfl

/-- Elements that are no less specific than those behind them choose in the order of the query. -/
theorem claimOrder_eq_indexed (hrest : ∀ wanted ∈ query, wanted.isRest = false)
    (hsame : query.Pairwise fun wanted other => wanted.strength.le other.strength = true) :
    claimOrder query = indexed query := by
  rw [claimOrder, List.filter_eq_self.mpr, List.mergeSort_of_pairwise]
  · rw [← map_snd_indexed query, List.pairwise_map] at hsame
    exact hsame
  · intro entry hentry
    simp [hrest entry.2 (snd_mem_of_mem_indexed hentry)]

/-- **Claims in place.**  If the elements of a query are equally specific and each accepts what stands
at its own place in the file, each claims this place, whatever else they would accept. -/
theorem claim_in_place {ordered : Bool} (hrest : ∀ wanted ∈ query, wanted.isRest = false)
    (hsame : query.Pairwise fun wanted other => wanted.strength.le other.strength = true)
    (h : List.Forall₂ (fun wanted x => wanted.accepts x = .ok true) query file) :
    claim ordered query file = .ok (some (List.range query.length)) := by
  have horder := claimOrder_eq_indexed hrest hsame
  have hclaims : claimEach (indexed query) (indexed file) =
      .ok (some ((List.range query.length).map fun i => (i, i))) := by
    rw [List.range_eq_range']
    exact claimEach_of_forall₂ h 0
  have hsorted : (((List.range query.length).map fun i => (i, i)).mergeSort
      fun a b => a.1 ≤ b.1) = (List.range query.length).map fun i => (i, i) := by
    refine List.mergeSort_of_pairwise ?_
    rw [List.pairwise_map]
    exact List.pairwise_lt_range.imp fun hless => by simpa using Nat.le_of_lt hless
  have hincreasing : increasing (List.range query.length) = true :=
    increasing_iff.mpr List.pairwise_lt_range
  have hlength : ¬ file.length < query.length := by simp [h.length_eq]
  simp only [claim, horder, length_indexed, if_neg hlength, hclaims, bind, Except.bind, hsorted,
    List.map_map, Function.comp_def, List.map_id']
  simp [hincreasing, pure, Except.pure]

end Sequence

namespace Criteria

variable {criteria : Criteria}

/-- What the nodes of a query sequence claim among the comparable nodes of a file sequence. -/
def claims (criteria : Criteria) (queries files : List Node) :
    Except SearchError (Option (List Nat)) :=
  Matching.outcome (Sequence.claim (criteria.mode == .includeOrdered)
    (criteria.wantedAll queries) (files.filter criteria.profile.isComparable))

/-- Claims are made by elements that decide by the verdict. -/
theorem claims_eq (queries files : List Node) :
    criteria.claims queries files =
      Sequence.claim (criteria.mode == .includeOrdered) (criteria.elements queries)
        (files.filter criteria.profile.isComparable) := by
  rw [← map_onto_outcome_wantedAll]
  exact (Sequence.claim_alongside Matching.runsAlongside_yields _
    (criteria.yields_accepts_wantedAll fun query _ => criteria.steady_validate query)
    _).outcome_eq

/-- In the include modes sequences match exactly if all claims can be made. -/
theorem sequenceVerdict_eq_claims (hmode : criteria.mode ≠ .exact) (queries files : List Node) :
    criteria.sequenceVerdict queries files =
      (fun claimed => claimed.isSome) <$> criteria.claims queries files := by
  rw [sequenceVerdict_eq, claims_eq, searchSequence, if_neg hmode]

/-- Sequences match if all claims can be made. -/
theorem sequenceVerdict_of_claims (hmode : criteria.mode ≠ .exact) {queries files : List Node}
    {places : List Nat} (h : criteria.claims queries files = .ok (some places)) :
    criteria.sequenceVerdict queries files = .ok true := by
  rw [sequenceVerdict_eq_claims hmode, h]
  rfl

/-- If sequences match, all claims can be made. -/
theorem exists_claims_of_sequenceVerdict (hmode : criteria.mode ≠ .exact)
    {queries files : List Node} (h : criteria.sequenceVerdict queries files = .ok true) :
    ∃ places, criteria.claims queries files = .ok (some places) := by
  rw [sequenceVerdict_eq_claims hmode] at h
  match hclaims : criteria.claims queries files with
  | .error e => simp [hclaims, Functor.map, Except.map] at h
  | .ok none => simp [hclaims, Functor.map, Except.map] at h
  | .ok (some places) => exact ⟨places, rfl⟩

/-- Claims that can be made are those that are made when failures are put aside. -/
theorem claim_choosers_of_claims {queries files : List Node} {places : List Nat}
    (h : criteria.claims queries files = .ok (some places)) :
    (Sequence.claim (criteria.mode == .includeOrdered) (criteria.choosers queries)
      (files.filter criteria.profile.isComparable)).run = some places := by
  rw [claims_eq] at h
  rw [← claim_elements]
  exact (Sequence.claim_alongside Sequence.runsAlongside_decided _
    (fun wanted _ x => Sequence.eq_decided_of_ok (wanted.accepts x)) _ _ h).symm

/-- The pairs of sequences that are matched in the course of matching two nodes: those in the fields
that are compared, and those below the children and below the claimed elements. -/
inductive Meets (criteria : Criteria) : Node → Node → List Node → List Node → Prop
  | here {query file : Node} {name : String} {queries files : List Node}
      (halone : ¬ criteria.DecidedAlone query) (hmem : (name, .sequence queries) ∈ query.fields)
      (hcompared : criteria.isCompared (.sequence queries) = true)
      (hfield : file.field? name = some (.sequence files)) : Meets criteria query file queries files
  | child {query file wanted actual : Node} {name : String} {queries files : List Node}
      (halone : ¬ criteria.DecidedAlone query) (hmem : (name, .child (some wanted)) ∈ query.fields)
      (hfield : file.field? name = some (.child (some actual)))
      (hbelow : Meets criteria wanted actual queries files) :
      Meets criteria query file queries files
  | element {query file wanted actual : Node} {name : String} {around within : List Node}
      {places : List Nat} {i place : Nat} {queries files : List Node}
      (halone : ¬ criteria.DecidedAlone query) (hmem : (name, .sequence around) ∈ query.fields)
      (hcompared : criteria.isCompared (.sequence around) = true)
      (hfield : file.field? name = some (.sequence within))
      (hclaims : criteria.claims around within = .ok (some places))
      (hwanted : (criteria.claimants around)[i]? = some wanted)
      (hplace : places[i]? = some place)
      (hactual : (within.filter criteria.profile.isComparable)[place]? = some actual)
      (hbelow : Meets criteria wanted actual queries files) :
      Meets criteria query file queries files

/-- If two nodes match, a compared field of the query matches the field of that name. -/
theorem valueVerdict_of_verdict {query file : Node} (h : criteria.verdict query file = .ok true)
    (halone : ¬ criteria.DecidedAlone query) {name : String} {value actual : FieldValue Node}
    (hmem : (name, value) ∈ query.fields) (hcompared : criteria.isCompared value = true)
    (hfield : file.field? name = some actual) : criteria.valueVerdict value actual = .ok true := by
  rcases criteria.verdict_eq_true_iff.mp h with hlevel | ⟨-, -, hfields⟩
  · exact absurd (criteria.decidedAlone_of_settled hlevel) halone
  · obtain ⟨other, hother, hmatch⟩ := hfields name value hmem hcompared
    rw [hfield] at hother
    obtain rfl := Option.some.inj hother
    exact hmatch

/-- All sequences that are met stand in the two trees. -/
theorem Meets.mem_walk {query file : Node} {queries files : List Node}
    (h : criteria.Meets query file queries files) :
    (∀ wanted ∈ queries, wanted ∈ query.walk) ∧ ∀ actual ∈ files, actual ∈ file.walk := by
  have hlower : ∀ {node child other : Node}, child ∈ node.children → other ∈ child.walk →
      other ∈ node.walk := fun hchild hother =>
    Node.mem_walk_iff.mpr (Or.inr ⟨_, hchild, hother⟩)
  induction h with
  | here _ hmem _ hfield =>
      constructor
      · intro wanted hwanted
        exact Node.mem_walk_of_mem_children (Node.mem_children_iff.mpr ⟨_, _, hmem, hwanted⟩)
      · intro actual hactual
        exact Node.mem_walk_of_mem_children (Node.mem_children_of_field? hfield hactual)
  | child _ hmem hfield _ ih =>
      have hwanted := Node.mem_children_iff.mpr ⟨_, _, hmem, List.mem_singleton_self _⟩
      have hactual := Node.mem_children_of_field? hfield (List.mem_singleton_self _)
      exact ⟨fun other hother => hlower hwanted (ih.1 other hother),
        fun other hother => hlower hactual (ih.2 other hother)⟩
  | element _ hmem _ hfield _ hwanted _ hactual _ ih =>
      have hwanted := Node.mem_children_iff.mpr
        ⟨_, _, hmem, mem_of_mem_claimants (List.mem_of_getElem? hwanted)⟩
      have hactual := Node.mem_children_of_field? hfield
        (List.mem_of_mem_filter (List.mem_of_getElem? hactual))
      exact ⟨fun other hother => hlower hwanted (ih.1 other hother),
        fun other hother => hlower hactual (ih.2 other hother)⟩

/-! ### Sequences without wildcards -/

/-- An element without `$` decides as the node does. -/
theorem accepts_of_plain {query : Node} (hplain : query.Plain) (file : Node) :
    (criteria.element query).accepts file = criteria.verdict query file := by
  simp [element, Profile.elementWildcard?_of_plain hplain]

section Sequences

variable {queries files : List Node} (hplain : ∀ query ∈ queries, query.Plain)
include hplain

/-- All comparable elements without `$` make a claim. -/
theorem claimants_of_plain :
    criteria.claimants queries = queries.filter criteria.profile.isComparable := by
  refine List.filter_eq_self.mpr fun query hquery => ?_
  rw [asks, Profile.elementWildcard?_of_plain (hplain query (List.mem_of_mem_filter hquery))]
  rfl

/-- No element without `$` may not choose before another one. -/
theorem pairwise_mayPrecede_of_plain :
    (criteria.claimants queries).Pairwise criteria.MayPrecede := by
  have hstrength : ∀ query ∈ queries, criteria.strengthOf query = { level := 0 } := by
    intro query hquery
    rw [strengthOf, Profile.elementWildcard?_of_plain (hplain query hquery)]
    cases hname : criteria.profile.identifierName? query.innermost with
    | none => rfl
    | some name =>
        have htext : name ∈ query.innermost.text := by
          unfold Profile.identifierName? at hname
          split at hname
          · exact hname
          · cases hname
        simp [hplain query hquery _ query.innermost_mem_walk name htext]
  refine List.pairwise_of_forall_mem_list fun query hquery other hother => ?_
  rw [MayPrecede, hstrength query (mem_of_mem_claimants hquery),
    hstrength other (mem_of_mem_claimants hother)]
  rfl

/-- An element without `$` accepts what it matches. -/
theorem verdict_of_acceptsNode {query file : Node} (hquery : query ∈ queries)
    (h : criteria.acceptsNode query file = true) : criteria.verdict query file = .ok true := by
  refine (criteria.acceptsNode_iff.mp h).resolve_left ?_
  rw [Profile.elementWildcard?_of_plain (hplain query hquery)]
  exact nofun

/-- If exact mode accepts two sequences, the elements match in their places. -/
theorem forall₂_of_exact (hexact : criteria.mode = .exact)
    (h : criteria.sequenceVerdict queries files = .ok true) :
    List.Forall₂ (fun query file => criteria.verdict query file = .ok true)
      (queries.filter criteria.profile.isComparable)
      (files.filter criteria.profile.isComparable) := by
  rw [sequenceVerdict_eq] at h
  have hrest : ∀ query ∈ queries.filter criteria.profile.isComparable,
      ¬ criteria.profile.elementWildcard? query = some .rest := by
    intro query hquery
    rw [Profile.elementWildcard?_of_plain (hplain query (List.mem_of_mem_filter hquery))]
    exact nofun
  have hplaces := (Aligned.forall₂_iff hrest).mp (aligned_of_searchSequence hexact h)
  exact Sequence.forall₂_imp_of_mem hplaces fun query hquery _ _ =>
    verdict_of_acceptsNode hplain (List.mem_of_mem_filter hquery)

/-- No element without `$` is a rest wildcard. -/
theorem isRest_of_plain : ∀ wanted ∈ criteria.elements queries, wanted.isRest = false := by
  intro wanted hwanted
  obtain ⟨query, hquery, rfl⟩ := List.mem_map.mp hwanted
  simp [Wanted.isRest, element,
    Profile.elementWildcard?_of_plain (hplain query (List.mem_of_mem_filter hquery))]

/-- Elements without `$` are equally specific. -/
theorem pairwise_strength_of_plain : (criteria.elements queries).Pairwise fun wanted other =>
    wanted.strength.le other.strength = true := by
  rw [elements, List.pairwise_map, ← claimants_of_plain hplain]
  exact pairwise_mayPrecede_of_plain hplain

/-- Elements that match in their places claim these places. -/
theorem claims_of_forall₂
    (h : List.Forall₂ (fun query file => criteria.verdict query file = .ok true)
      (queries.filter criteria.profile.isComparable)
      (files.filter criteria.profile.isComparable)) :
    criteria.claims queries files =
      .ok (some (List.range (queries.filter criteria.profile.isComparable).length)) := by
  rw [claims_eq, Sequence.claim_in_place (isRest_of_plain hplain)
    (pairwise_strength_of_plain hplain), elements, List.length_map]
  rw [elements, List.forall₂_map_left_iff]
  exact Sequence.forall₂_imp_of_mem h fun query hquery _ _ hmatch =>
    (accepts_of_plain (hplain query (List.mem_of_mem_filter hquery)) _).trans hmatch

end Sequences

/-! ### Trees without wildcards -/

/-- The elements of a sequence without `$` match what they claim. -/
theorem verdict_of_claims {queries files : List Node} (hplain : ∀ query ∈ queries, query.Plain)
    {places : List Nat} (h : criteria.claims queries files = .ok (some places)) {i place : Nat}
    {query file : Node} (hquery : (criteria.claimants queries)[i]? = some query)
    (hplace : places[i]? = some place)
    (hfile : (files.filter criteria.profile.isComparable)[place]? = some file) :
    criteria.verdict query file = .ok true := by
  obtain ⟨htakes, -, -⟩ := takesAt_of_claim (claim_choosers_of_claims h)
  obtain ⟨x, hx, haccepts⟩ := Sequence.rel_of_forall₂ htakes hquery hplace
  rw [hfile] at hx
  obtain rfl := Option.some.inj hx
  exact verdict_of_acceptsNode hplain (mem_of_mem_claimants (List.mem_of_getElem? hquery)) haccepts

/-- **Down to the sequences.**  If two nodes match, so do all pairs of sequences that are met. -/
theorem sequenceVerdict_of_meets {query file : Node} {queries files : List Node}
    (hmeets : criteria.Meets query file queries files) (hplain : query.Plain)
    (h : criteria.verdict query file = .ok true) :
    criteria.sequenceVerdict queries files = .ok true := by
  induction hmeets with
  | here halone hmem hcompared hfield =>
      exact valueVerdict_of_verdict h halone hmem hcompared hfield
  | child halone hmem hfield _ ih =>
      have hchild := Node.mem_children_iff.mpr ⟨_, _, hmem, List.mem_singleton_self _⟩
      exact ih (hplain.child hchild)
        (valueVerdict_of_verdict h halone hmem (by simp [isCompared, FieldValue.isEmpty]) hfield)
  | element halone hmem hcompared hfield hclaims hwanted hplace hactual _ ih =>
      have hbelow := hplain.of_mem_sequence hmem
      exact ih (hbelow _ (mem_of_mem_claimants (List.mem_of_getElem? hwanted)))
        (verdict_of_claims hbelow hclaims hwanted hplace hactual)

section Modes

variable {mode : Mode} {query file : Node} {queries files : List Node}

/-- What a query without `$` matches in exact mode it matches in every mode. -/
theorem verdict_of_exact (hplain : query.Plain)
    (h : (criteria.inMode .exact).verdict query file = .ok true) :
    (criteria.inMode mode).verdict query file = .ok true := by
  by_cases hmode : mode = .exact
  · rwa [hmode]
  · refine verdict_of_sequences (fun value hvalue => ?_) ?_ (Node.mem_walk_self file) h
    · cases value <;> simp_all [isCompared, inMode]
    · intro node hnode name queries hmem files _ hmatch hexact
      have hbelow := Node.Plain.of_mem_sequence (hplain.visited hnode) hmem
      refine sequenceVerdict_of_claims hmode (claims_of_forall₂ hbelow ?_)
      have hplaces := forall₂_of_exact hbelow rfl hexact
      exact Sequence.forall₂_imp_of_mem hplaces fun query hquery file hfile =>
        hmatch query (List.mem_of_mem_filter hquery) file (List.mem_of_mem_filter hfile)

/-- Where exact mode accepts two sequences, the claims in the other modes are in place. -/
theorem claims_of_exact (hplain : ∀ query ∈ queries, query.Plain)
    (h : (criteria.inMode .exact).sequenceVerdict queries files = .ok true) :
    (criteria.inMode mode).claims queries files =
      .ok (some (List.range (queries.filter criteria.profile.isComparable).length)) := by
  have hplaces : List.Forall₂
      (fun query file => (criteria.inMode .exact).verdict query file = .ok true)
      (queries.filter criteria.profile.isComparable) (files.filter criteria.profile.isComparable) :=
    forall₂_of_exact hplain rfl h
  refine claims_of_forall₂ hplain ?_
  exact Sequence.forall₂_imp_of_mem hplaces fun query hquery _ _ =>
    verdict_of_exact (hplain query (List.mem_of_mem_filter hquery))

/-- If exact mode accepts two nodes, it accepts all pairs of sequences that are met in another mode. -/
theorem exact_of_meets (hmeets : (criteria.inMode mode).Meets query file queries files)
    (hplain : query.Plain) (h : (criteria.inMode .exact).verdict query file = .ok true) :
    (criteria.inMode .exact).sequenceVerdict queries files = .ok true := by
  induction hmeets with
  | here halone hmem _ hfield =>
      exact valueVerdict_of_verdict h halone hmem (by simp [isCompared, inMode]) hfield
  | child halone hmem hfield _ ih =>
      have hchild := Node.mem_children_iff.mpr ⟨_, _, hmem, List.mem_singleton_self _⟩
      exact ih (hplain.child hchild)
        (valueVerdict_of_verdict h halone hmem (by simp [isCompared, inMode]) hfield)
  | element halone hmem _ hfield hclaims hwanted hplace hactual _ ih =>
      have hbelow := hplain.of_mem_sequence hmem
      have haround : (criteria.inMode .exact).sequenceVerdict _ _ = .ok true :=
        valueVerdict_of_verdict h halone hmem (by simp [isCompared, inMode]) hfield
      refine ih (hbelow _ (mem_of_mem_claimants (List.mem_of_getElem? hwanted))) ?_
      -- The element was claimed in its place.
      rw [claims_of_exact hbelow haround] at hclaims
      obtain rfl := Option.some.inj (Except.ok.inj hclaims)
      obtain ⟨_, rfl⟩ := List.getElem?_eq_some_iff.mp hplace
      rw [List.getElem_range] at hactual
      rw [claimants_of_plain hbelow] at hwanted
      exact Sequence.rel_of_forall₂ (forall₂_of_exact hbelow rfl haround) hwanted hactual

/-- The sequences of a query without `$` are not disturbed. -/
theorem undisturbed_of_plain (hplain : query.Plain) (nodes : List Node) :
    query.EverySequence (criteria.Undisturbed nodes) := by
  intro inner hinner queries hqueries
  obtain ⟨⟨name, value⟩, hmem, hvalue⟩ := List.mem_filterMap.mp hqueries
  cases value <;> cases hvalue
  have hbelow := Node.Plain.of_mem_sequence (hplain.visited hinner) hmem
  exact .of_mayPrecede (pairwise_mayPrecede_of_plain hbelow)

variable {layout : Layout} {root : Node} (hroot : root.Everywhere layout.Covers)
include hroot

/-- What a query without `$` matches with order it matches without. -/
theorem verdict_of_ordered (hquery : query.Everywhere layout.Fits) (hplain : query.Plain)
    (hfile : file ∈ root.walk)
    (h : (criteria.inMode .includeOrdered).verdict query file = .ok true) :
    (criteria.inMode .includeAny).verdict query file = .ok true :=
  verdict_includeAny hroot hquery (undisturbed_of_plain hplain root.walk) hfile h

/-- **From order to freedom without wildcards.**  Where claims can be made in order, they can be made
without order, and none is behind the one in order. -/
theorem exists_claims_le (hqueries : ∀ query ∈ queries, query.Everywhere layout.Fits)
    (hplain : ∀ query ∈ queries, query.Plain) (hfiles : ∀ file ∈ files, file ∈ root.walk)
    {places : List Nat}
    (h : (criteria.inMode .includeOrdered).claims queries files = .ok (some places)) :
    ∃ found, (criteria.inMode .includeAny).claims queries files = .ok (some found) ∧
      List.Forall₂ (· ≤ ·) found places := by
  have hok : ∀ query ∈ queries, ∀ file ∈ files,
      ∃ found, (criteria.inMode .includeAny).verdict query file = .ok found :=
    fun query hquery file hfile =>
      verdict_ok_of_fits (hqueries query hquery) (hroot.visited (hfiles file hfile))
  have haccepts : ∀ query ∈ criteria.claimants queries,
      ∀ file ∈ files.filter criteria.profile.isComparable,
      (criteria.inMode .includeOrdered).acceptsNode query file = true →
      (criteria.inMode .includeAny).acceptsNode query file = true := by
    intro query hquery file hfile
    have hmem := mem_of_mem_claimants hquery
    refine acceptsNode_inMode fun hmatch => ?_
    exact verdict_of_ordered hroot (hqueries query hmem) (hplain query hmem)
      (hfiles file (List.mem_of_mem_filter hfile)) hmatch
  have hordered := claim_choosers_of_claims h
  have hundisturbed : criteria.Undisturbed root.walk queries :=
    .of_mayPrecede (pairwise_mayPrecede_of_plain hplain)
  obtain ⟨found, hfound, hle⟩ := exists_claim_of_undisturbed hundisturbed
    (mem_of_mem_comparable hfiles) haccepts hordered
  refine ⟨found, ?_, hle⟩
  rw [claims_eq, profile_inMode, Sequence.claim_eq_ok _ (decides_inMode hok), claim_elements]
  exact congrArg Except.ok hfound

end Modes

/-- **Claims of queries without wildcards.**  Suppose no text of a query holds `$`.  If exact mode
accepts the query, the include modes do too, and in them the elements of every pair of sequences that
is met claim the elements in their own places.  If the query is accepted with order, and the tokens of
the file are of kinds without fields, it is accepted without order too; at every pair of sequences that
is met with order the claims without order can all be made, and none is behind the one with order. -/
theorem claims_follow_stricter_mode {grammar : Grammar} (caseInsensitive : Bool) {query file : Node}
    (hquery : grammar.BuildsQuery query) (hfile : grammar.Builds file) (hplain : query.Plain)
    (tally : Tally) :
    let criteria := fun mode => (⟨grammar.profile, mode, caseInsensitive⟩ : Criteria)
    (((criteria .exact).validate query file tally).1 = .ok true →
      ∀ mode, mode = .includeAny ∨ mode = .includeOrdered →
        ((criteria mode).validate query file tally).1 = .ok true ∧
        ∀ queries files, (criteria mode).Meets query file queries files →
          (criteria mode).claims queries files = .ok (some (List.range
            (queries.filter grammar.profile.isComparable).length))) ∧
    (file.Everywhere grammar.layout.BareToken →
      ((criteria .includeOrdered).validate query file tally).1 = .ok true →
        ((criteria .includeAny).validate query file tally).1 = .ok true ∧
        ∀ queries files, (criteria .includeOrdered).Meets query file queries files →
          ∃ places found,
            (criteria .includeOrdered).claims queries files = .ok (some places) ∧
            places.Pairwise (· < ·) ∧
            (criteria .includeAny).claims queries files = .ok (some found) ∧
            List.Forall₂ (· ≤ ·) found places) := by
  intro criteria
  have hmodes : ∀ mode, criteria mode = (criteria .exact).inMode mode := fun _ => rfl
  simp only [validate_fst_eq]
  constructor
  · intro hexact mode _
    rw [hmodes .exact] at hexact
    rw [hmodes mode]
    refine ⟨verdict_of_exact hplain hexact, fun queries files hmeets => ?_⟩
    exact claims_of_exact (fun inner hinner => hplain.visited (hmeets.mem_walk.1 inner hinner))
      (exact_of_meets hmeets hplain hexact)
  · intro hbare hordered
    have hcovers := hfile.everywhere_covers hbare
    have hfits := hquery.everywhere_fits
    have hany : ((criteria .exact).inMode .includeAny).verdict query file = .ok true :=
      verdict_of_ordered hcovers hfits hplain (Node.mem_walk_self file) hordered
    refine ⟨hany, fun queries files hmeets => ?_⟩
    obtain ⟨places, hplaces⟩ := exists_claims_of_sequenceVerdict (by simp [criteria])
      (sequenceVerdict_of_meets hmeets hplain hordered)
    obtain ⟨found, hfound, hle⟩ : ∃ found,
        ((criteria .exact).inMode .includeAny).claims queries files = .ok (some found) ∧
          List.Forall₂ (· ≤ ·) found places :=
      exists_claims_le hcovers (fun inner hinner => hfits.visited (hmeets.mem_walk.1 inner hinner))
        (fun inner hinner => hplain.visited (hmeets.mem_walk.1 inner hinner)) hmeets.mem_walk.2
        hplaces
    have hincreasing := (takesAt_of_claim (claim_choosers_of_claims hplaces)).2.2 rfl
    exact ⟨places, found, hplaces, hincreasing, hfound, hle⟩

/-- In an include mode, sequences in the field of one name are met where nodes are not decided
alone. -/
theorem meets_sequence {query file : Node} (halone : ¬ criteria.DecidedAlone query) {name : String}
    (hquery : query.sequence name ≠ []) (hfile : file.sequence name ≠ []) :
    criteria.Meets query file (query.sequence name) (file.sequence name) :=
  .here halone (Node.mem_fields_of_field? (Node.field?_of_sequence hquery))
    (by simp [isCompared, FieldValue.isEmpty, hquery]) (Node.field?_of_sequence hfile)

end Criteria

namespace Calls

/-- The tree of `f(b,c,g(a))` without a program around it. -/
def threeArguments : ParseTree :=
  call 0 11 [name 2 3, name 4 5, call 6 10 [name 8 9]]

/-- The tree of `f(c,g(a))` without a program around it. -/
def twoArguments : ParseTree :=
  call 0 9 [name 2 3, call 4 8 [name 6 7]]

end Calls

namespace Criteria

/-- `f(b,c,g(a))` is accepted in exact mode on itself, so the arguments claim their own places, and
`f(c,g(a))` is accepted on it with order, so without order the arguments claim no later ones. -/
theorem calls_claimed :
    let criteria := fun mode => (⟨Calls.profile, mode, false⟩ : Criteria)
    let file := (Calls.nodeOf "f(b,c,g(a))" Calls.threeArguments).sequence "argument"
    let same := (Calls.queryNodeOf "f(b,c,g(a))" Calls.threeArguments).sequence "argument"
    let fewer := (Calls.queryNodeOf "f(c,g(a))" Calls.twoArguments).sequence "argument"
    (criteria .includeAny).claims same file = .ok (some (List.range 3)) ∧
    ∃ places found, (criteria .includeOrdered).claims fewer file = .ok (some places) ∧
      places.Pairwise (· < ·) ∧ (criteria .includeAny).claims fewer file = .ok (some found) ∧
      List.Forall₂ (· ≤ ·) found places := by
  have hfile := Calls.builds_nodeOf "f(b,c,g(a))" Calls.threeArguments
  have hsame := Calls.buildsQuery_queryNodeOf "f(b,c,g(a))" Calls.threeArguments
  have hfewer := Calls.buildsQuery_queryNodeOf "f(c,g(a))" Calls.twoArguments
  have hexact : (Criteria.validate ⟨Calls.profile, .exact, false⟩
      (Calls.queryNodeOf "f(b,c,g(a))" Calls.threeArguments)
      (Calls.nodeOf "f(b,c,g(a))" Calls.threeArguments) {}).1 = .ok true := by decide +kernel
  have hordered : (Criteria.validate ⟨Calls.profile, .includeOrdered, false⟩
      (Calls.queryNodeOf "f(c,g(a))" Calls.twoArguments)
      (Calls.nodeOf "f(b,c,g(a))" Calls.threeArguments) {}).1 = .ok true := by
    rw [validate_fst_eq, verdict_eq_sequenceVerdict _ "argument" ["argument", "function"] rfl rfl
      rfl rfl (by decide +kernel), sequenceVerdict_eq]
    simp only [searchSequence, Sequence.claim_eq_claimByInsertion]
    decide +kernel
  constructor
  · exact ((claims_follow_stricter_mode false hsame hfile (by decide +kernel) {}).1 hexact
      .includeAny (Or.inl rfl)).2 _ _
      (meets_sequence (by unfold DecidedAlone; decide +kernel) (by decide +kernel)
        (by decide +kernel))
  · exact ((claims_follow_stricter_mode false hfewer hfile (by decide +kernel) {}).2
      (by decide +kernel) hordered).2 _ _
      (meets_sequence (by unfold DecidedAlone; decide +kernel) (by decide +kernel)
        (by decide +kernel))

end Criteria

namespace Calls

/-- Two names in braces as an argument: in this language that is a program. -/
def braces (start : Nat) : ParseTree :=
  tree "program" (some "argument") start (start + 5)
    [name (start + 1) (start + 2), name (start + 3) (start + 4)]

/-- The tree of `g({a,b},h(c))`. -/
def bracesQuery : ParseTree :=
  program 13 [braces 2, call 8 12 [name 10 11]]

/-- The tree of `g({b,a},call) g({a,b},h(c))`. -/
def bracesFile : ParseTree :=
  tree "program" none 0 27
    [call 0 13 [braces 2, word 8 12], call 14 27 [braces 16, call 22 26 [name 24 25]]]

/-- The call of the first text. -/
def bracesCall : Node :=
  ((queryNodeOf "g({a,b},h(c))" bracesQuery).sequence "children").headD (node "")

/-- The first call of the other text, where the names in the braces have changed places. -/
def swappedCall : Node :=
  ((nodeOf "g({b,a},call) g({a,b},h(c))" bracesFile).sequence "children").headD (node "")

/-- The second call of the other text. -/
def sameCall : Node :=
  ((nodeOf "g({b,a},call) g({a,b},h(c))" bracesFile).sequence "children").getLastD (node "")

/-- An argument of a call. -/
def argument (call : Node) (place : Nat) : Node :=
  (call.sequence "argument").getD place call

end Calls

namespace Criteria

/-- Braces with names that have changed places match, unless order is kept. -/
theorem verdict_of_swapped_braces {mode : Mode} (hmode : mode ≠ .exact) :
    Criteria.verdict ⟨Calls.profile, mode, false⟩ (Calls.argument Calls.bracesCall 0)
      (Calls.argument Calls.swappedCall 0) = .ok (mode != .includeOrdered) := by
  have hnames : Criteria.verdict ⟨Calls.profile, mode, false⟩ (Calls.argument Calls.bracesCall 0)
      (Calls.argument Calls.swappedCall 0) =
      Criteria.sequenceVerdict ⟨Calls.profile, mode, false⟩
        ((Calls.argument Calls.bracesCall 0).sequence "children")
        ((Calls.argument Calls.swappedCall 0).sequence "children") := by
    cases mode <;> exact verdict_eq_sequenceVerdict _ "children" ["children"] rfl rfl rfl rfl rfl
  rw [hnames, sequenceVerdict_eq]
  simp only [searchSequence, if_neg hmode, Sequence.claim_eq_claimByInsertion]
  cases mode with
  | exact => exact absurd rfl hmode
  | includeOrdered | includeAny | text => decide +kernel

/-- Behind such braces the second argument is tried on the word, unless order is kept. -/
theorem verdict_of_swapped_call {mode : Mode} (hmode : mode ≠ .exact) :
    Criteria.verdict ⟨Calls.profile, mode, false⟩ Calls.bracesCall Calls.swappedCall =
      if mode = .includeOrdered then .ok false
      else .error (.fieldsMissing "call" "call" [] ["argument", "function"]) := by
  let criteria : Criteria := ⟨Calls.profile, mode, false⟩
  let first := Calls.argument Calls.bracesCall 0
  let second := Calls.argument Calls.bracesCall 1
  let braces := Calls.argument Calls.swappedCall 0
  let word := Calls.argument Calls.swappedCall 1
  have hcall : criteria.verdict Calls.bracesCall Calls.swappedCall =
      criteria.sequenceVerdict [first, second] [braces, word] := by
    cases mode <;>
      exact verdict_eq_sequenceVerdict _ "argument" ["argument", "function"] rfl rfl rfl rfl
        (by decide +kernel)
  have hplain : ∀ query ∈ [first, second], query.Plain := by decide +kernel
  have hbraces : (criteria.element first).accepts braces = .ok (mode != .includeOrdered) :=
    (accepts_of_plain (by decide +kernel) _).trans (verdict_of_swapped_braces hmode)
  have hword : (criteria.element first).accepts word = .ok false := by
    cases mode <;> decide +kernel
  have herror : (criteria.element second).accepts word =
      .error (.fieldsMissing "call" "call" [] ["argument", "function"]) := by
    cases mode <;> decide +kernel
  have hclaims : Sequence.claimEach (Sequence.indexed (criteria.elements [first, second]))
      (Sequence.indexed ([braces, word].filter criteria.profile.isComparable)) =
      if mode = .includeOrdered then .ok none
      else .error (.fieldsMissing "call" "call" [] ["argument", "function"]) := by
    change Sequence.claimEach [(0, criteria.element first), (1, criteria.element second)]
      [(0, braces), (1, word)] = _
    by_cases hordered : mode = .includeOrdered <;>
      simp [Sequence.claimEach, Sequence.takeFirst, hbraces, hword, herror, hordered, bind,
        Except.bind, pure, Except.pure]
  refine hcall.trans ?_
  rw [sequenceVerdict_eq, searchSequence, if_neg hmode, Sequence.claim,
    Sequence.claimOrder_eq_indexed (isRest_of_plain hplain) (pairwise_strength_of_plain hplain)]
  dsimp only
  rw [hclaims]
  cases mode <;> rfl

/-- The other call matches in every mode. -/
theorem verdict_of_same_call (mode : Mode) :
    Criteria.verdict ⟨Calls.profile, mode, false⟩ Calls.bracesCall Calls.sameCall = .ok true := by
  let exact : Criteria := ⟨Calls.profile, .exact, false⟩
  have hplain : Calls.bracesCall.Plain := by decide +kernel
  have hexact : (exact.inMode .exact).verdict Calls.bracesCall Calls.sameCall = .ok true := by
    decide +kernel
  have hmode : (exact.inMode mode).verdict Calls.bracesCall Calls.sameCall = .ok true :=
    verdict_of_exact hplain hexact
  exact hmode

/-- A token of a kind with fields can make claims fail without order that are made with order: in
`g({b,a},call)` the query `g({a,b},h(c))` is stopped by the braces if order is kept, and otherwise it
goes on and fails at the word. -/
theorem claims_fail_at_token :
    let criteria := fun mode => (⟨Calls.profile, mode, false⟩ : Criteria)
    let query := Calls.queryNodeOf "g({a,b},h(c))" Calls.bracesQuery
    let file := Calls.nodeOf "g({b,a},call) g({a,b},h(c))" Calls.bracesFile
    (Calls.grammar.BuildsQuery query ∧ Calls.grammar.Builds file ∧ query.Plain ∧
      ((criteria .includeOrdered).validate query file {}).1 = .ok true ∧
      (criteria .includeOrdered).Meets query file (query.sequence "children")
        (file.sequence "children") ∧
      (criteria .includeOrdered).claims (query.sequence "children") (file.sequence "children") =
        .ok (some [1])) ∧
    ∀ found, (criteria .includeAny).claims (query.sequence "children")
      (file.sequence "children") ≠ .ok found := by
  intro criteria query file
  have hplain : Calls.bracesCall.Plain := by decide +kernel
  have hclaims : ∀ mode, (criteria mode).claims (query.sequence "children")
      (file.sequence "children") = (fun taken => taken.map fun taken => [taken.1]) <$>
        Sequence.takeFirst ((criteria mode).element Calls.bracesCall).accepts
          [(0, Calls.swappedCall), (1, Calls.sameCall)] := by
    intro mode
    have hrest : ((criteria mode).element Calls.bracesCall).isRest = false := by
      simp [Wanted.isRest, element, Profile.elementWildcard?_of_plain hplain]
    rw [claims_eq]
    exact Sequence.claim_one hrest _ [Calls.swappedCall, Calls.sameCall]
  have hordered : (criteria .includeOrdered).claims (query.sequence "children")
      (file.sequence "children") = .ok (some [1]) := by
    have hswapped : ((criteria .includeOrdered).element Calls.bracesCall).accepts
        Calls.swappedCall = .ok false :=
      (accepts_of_plain hplain _).trans (verdict_of_swapped_call (by decide))
    have hsame : ((criteria .includeOrdered).element Calls.bracesCall).accepts
        Calls.sameCall = .ok true :=
      (accepts_of_plain hplain _).trans (verdict_of_same_call .includeOrdered)
    rw [hclaims]
    simp only [Sequence.takeFirst, hswapped, hsame]
    rfl
  have hmatch : ((criteria .includeOrdered).validate query file {}).1 = .ok true := by
    rw [validate_fst_eq, verdict_eq_sequenceVerdict _ "children" ["children"] rfl rfl rfl rfl rfl]
    exact sequenceVerdict_of_claims (by simp [criteria]) hordered
  refine ⟨⟨Calls.buildsQuery_queryNodeOf _ _, Calls.builds_nodeOf _ _, by decide +kernel, hmatch,
    meets_sequence (by unfold DecidedAlone; decide +kernel) (by decide +kernel)
      (by decide +kernel), hordered⟩, fun found hfound => ?_⟩
  have hswapped : ((criteria .includeAny).element Calls.bracesCall).accepts Calls.swappedCall =
      .error (.fieldsMissing "call" "call" [] ["argument", "function"]) :=
    (accepts_of_plain hplain _).trans (verdict_of_swapped_call (by decide))
  rw [hclaims] at hfound
  simp only [Sequence.takeFirst, hswapped] at hfound
  cases hfound

end Criteria

end StructuralSearch
