import StructuralSearch.Proofs.Alignment
import StructuralSearch.Proofs.FirstFit
import StructuralSearch.Proofs.SureMatching

/-!
# What sequence searches decide

The verdict on two sequences is a glob in exact mode and a round of claims in the include modes.
Here both are said in terms of nodes.  A glob is a cut of the file sequence into pieces
(`searchSequence_eq_true_iff_aligned`).  Claims are made by the comparable nodes of the query that
are no rest wildcards (`claimants`); what they come to is the first fit of these nodes.
-/

namespace StructuralSearch

namespace Sequence

variable {ε α : Type} {wanted : Wanted (Except ε) α}

/-- In a glob a single element decides about a single file element. -/
theorem glob_singleton (hrest : wanted.isRest = false) (x : α) :
    glob [wanted] [x] = wanted.accepts x := by
  simp only [glob, globFrom, hrest, List.any_cons, List.any_nil]
  cases wanted.accepts x with
  | error e => rfl
  | ok accepted => cases accepted <;> rfl

/-- A single element claims the first element of the file that it accepts. -/
theorem claim_one (hrest : wanted.isRest = false) (ordered : Bool) (file : List α) :
    claim ordered [wanted] file =
      (fun taken => taken.map fun taken => [taken.1]) <$>
        takeFirst wanted.accepts (indexed file) := by
  have horder : claimOrder [wanted] = [(0, wanted)] := by
    simp [claimOrder, indexed, hrest]
  cases file with
  | nil =>
      simp only [claim, horder]
      rfl
  | cons x file =>
      have hlength : ¬ (x :: file).length < [(0, wanted)].length := by simp
      simp only [claim, horder, if_neg hlength, claimEach]
      cases takeFirst wanted.accepts (indexed (x :: file)) with
      | error e => rfl
      | ok taken =>
          cases taken with
          | none => rfl
          | some taken =>
              simp [bind, Except.bind, pure, Except.pure, Functor.map, Except.map, increasing]

/-- A single element claims a single file element if it accepts it. -/
theorem claim_singleton (hrest : wanted.isRest = false) (ordered : Bool) (x : α) :
    (·.isSome) <$> claim ordered [wanted] [x] = wanted.accepts x := by
  have hindexed : indexed [x] = [(0, x)] := rfl
  rw [claim_one hrest, hindexed]
  simp only [takeFirst]
  cases wanted.accepts x with
  | error e => rfl
  | ok accepted => cases accepted <;> rfl

end Sequence

namespace Criteria

/-- Whether a query node asks for an element: it is no rest wildcard. -/
def asks (criteria : Criteria) (query : Node) : Bool :=
  criteria.profile.elementWildcard? query != some .rest

/-- The nodes of a query sequence that ask for an element, of the comparable ones. -/
def claimants (criteria : Criteria) (queries : List Node) : List Node :=
  (queries.filter criteria.profile.isComparable).filter criteria.asks

/-- The nodes that ask for an element as wanted elements, failures put aside. -/
def choosers (criteria : Criteria) (queries : List Node) : List (Wanted Id Node) :=
  (criteria.claimants queries).map fun query => (criteria.element query).onto Sequence.decided

/-- A node of a query sequence takes the node at a place of the file. -/
abbrev TakesAt (criteria : Criteria) (files : List Node) (query : Node) (place : Nat) : Prop :=
  Aligned.TakesAt (fun query file => criteria.acceptsNode query file = true) files query place

variable {criteria : Criteria} {queries files : List Node}

theorem asks_iff (criteria : Criteria) (query : Node) :
    criteria.asks query = true ↔ ¬ criteria.profile.elementWildcard? query = some .rest :=
  bne_iff_ne

/-- A node that asks for an element is a comparable node of the sequence. -/
theorem mem_of_mem_claimants {query : Node} (h : query ∈ criteria.claimants queries) :
    query ∈ queries :=
  List.mem_of_mem_filter (List.mem_of_mem_filter h)

/-- No node that asks for an element is a rest wildcard. -/
theorem isRest_of_mem_choosers {wanted : Wanted Id Node}
    (h : wanted ∈ criteria.choosers queries) : wanted.isRest = false := by
  obtain ⟨query, hquery, rfl⟩ := List.mem_map.mp h
  have hnone := (criteria.asks_iff query).mp (List.mem_filter.mp hquery).2
  rw [Sequence.isRest_onto, Wanted.isRest, element, beq_eq_false_iff_ne]
  exact hnone

/-- What is wanted at a place of the query. -/
theorem getElem?_choosers (criteria : Criteria) {i : Nat} {query : Node}
    (h : (criteria.claimants queries)[i]? = some query) :
    (criteria.choosers queries)[i]? = some ((criteria.element query).onto Sequence.decided) := by
  simp [choosers, h]

/-- The claims for a query sequence are those of the nodes that ask for an element. -/
theorem claim_elements (ordered : Bool) :
    (Sequence.claim ordered ((criteria.elements queries).map (Wanted.onto Sequence.decided))
      files).run = (Sequence.claim ordered (criteria.choosers queries) files).run := by
  rw [Sequence.claim_filter, elements, List.map_map, List.filter_map]
  rfl

/-- What successful claims say about the nodes of a query sequence. -/
theorem takesAt_of_claim {ordered : Bool} {places : List Nat}
    (h : (Sequence.claim ordered (criteria.choosers queries) files).run = some places) :
    List.Forall₂ (criteria.TakesAt files) (criteria.claimants queries) places ∧ places.Nodup ∧
      (ordered = true → places.Pairwise (· < ·)) := by
  obtain ⟨hsound, hdistinct, hordered⟩ := Sequence.claim_sound h
  rw [List.filter_eq_self.mpr fun wanted hwanted => by simp [isRest_of_mem_choosers hwanted],
    choosers, List.forall₂_map_left_iff] at hsound
  refine ⟨hsound.imp fun query place hplace => ?_, hdistinct, hordered⟩
  obtain ⟨x, hx, haccepts⟩ := hplace
  exact ⟨x, hx, (accepts_onto_decided_element criteria query x).symm.trans haccepts⟩

/-- If a search succeeds in an include mode, then so do the claims when failures are put aside. -/
theorem exists_claim_of_searchSequence (hmode : criteria.mode ≠ .exact)
    (h : criteria.searchSequence (criteria.elements queries) files = .ok true) :
    ∃ places, (Sequence.claim (criteria.mode == .includeOrdered) (criteria.choosers queries)
      files).run = some places := by
  unfold searchSequence at h
  rw [if_neg hmode] at h
  cases hclaim : Sequence.claim (criteria.mode == .includeOrdered) (criteria.elements queries)
      files with
  | error e => simp [hclaim, Functor.map, Except.map] at h
  | ok claimed =>
      have hrun := Sequence.claim_alongside Sequence.runsAlongside_decided
        (criteria.mode == .includeOrdered)
        (fun wanted _ x => Sequence.eq_decided_of_ok (wanted.accepts x)) files claimed hclaim
      cases claimed with
      | none => simp [hclaim, Functor.map, Except.map] at h
      | some places => exact ⟨places, (claim_elements _).symm.trans hrun.symm⟩

/-- Successful claims make a search in an include mode succeed, if no decision fails. -/
theorem searchSequence_of_claim (hmode : criteria.mode ≠ .exact)
    (hdecides : Sequence.Decides (criteria.elements queries) files) {places : List Nat}
    (h : (Sequence.claim (criteria.mode == .includeOrdered) (criteria.choosers queries)
      files).run = some places) :
    criteria.searchSequence (criteria.elements queries) files = .ok true := by
  unfold searchSequence
  rw [if_neg hmode, Sequence.claim_eq_ok _ hdecides, claim_elements, h]
  rfl

/-- A glob for the nodes of a query, failures put aside, is a cut of the file sequence. -/
theorem glob_elements_eq_true_iff :
    (Sequence.glob ((criteria.elements queries).map (Wanted.onto Sequence.decided)) files).run =
        true ↔
      Aligned (fun query => criteria.profile.elementWildcard? query = some .rest)
        (fun query file => criteria.acceptsNode query file = true)
        (queries.filter criteria.profile.isComparable) files := by
  have hrest : ∀ query : Node,
      (((criteria.element query).onto Sequence.decided).isRest = true ↔
        criteria.profile.elementWildcard? query = some .rest) := by
    simp [Wanted.isRest, Wanted.onto, element]
  have haccepts := fun query file => accepts_onto_decided_element criteria query file
  rw [Sequence.glob_eq_true_iff, elements, List.map_map, Aligned.map_iff]
  constructor
  · exact fun haligned => haligned.mono (fun query _ => hrest query)
      fun query _ _ file _ => (haccepts query file).symm.trans
  · exact fun haligned => haligned.mono (fun query _ => (hrest query).symm)
      fun query _ _ file _ => (haccepts query file).trans

/-- If a search succeeds in exact mode, the file sequence can be cut, whatever fails elsewhere. -/
theorem aligned_of_searchSequence (hexact : criteria.mode = .exact)
    (h : criteria.searchSequence (criteria.elements queries) files = .ok true) :
    Aligned (fun query => criteria.profile.elementWildcard? query = some .rest)
      (fun query file => criteria.acceptsNode query file = true)
      (queries.filter criteria.profile.isComparable) files := by
  unfold searchSequence at h
  rw [if_pos hexact] at h
  exact glob_elements_eq_true_iff.mp (Sequence.glob_alongside Sequence.runsAlongside_decided
    (fun wanted _ x => Sequence.eq_decided_of_ok (wanted.accepts x)) files true h).symm

/-- **Globs of nodes.**  A search succeeds in exact mode exactly if the file sequence can be cut into
pieces for the nodes of the query, if no decision fails. -/
theorem searchSequence_eq_true_iff_aligned (hexact : criteria.mode = .exact)
    (hdecides : Sequence.Decides (criteria.elements queries) files) :
    criteria.searchSequence (criteria.elements queries) files = .ok true ↔
      Aligned (fun query => criteria.profile.elementWildcard? query = some .rest)
        (fun query file => criteria.acceptsNode query file = true)
        (queries.filter criteria.profile.isComparable) files := by
  unfold searchSequence
  rw [if_pos hexact, Sequence.glob_eq_ok hdecides, Except.ok.injEq, glob_elements_eq_true_iff]

/-- In a sequence of one element, in every mode, the element decides. -/
theorem sequenceVerdict_singleton {query file : Node}
    (hquery : criteria.profile.isComparable query = true)
    (hrest : criteria.profile.elementWildcard? query ≠ some .rest)
    (hfile : criteria.profile.isComparable file = true) :
    criteria.sequenceVerdict [query] [file] = (criteria.element query).accepts file := by
  have hsingle : (criteria.element query).isRest = false := by
    simpa [Wanted.isRest, element] using hrest
  have helements : criteria.elements [query] = [criteria.element query] := by
    simp [elements, hquery]
  have hfiltered : [file].filter criteria.profile.isComparable = [file] := by simp [hfile]
  rw [sequenceVerdict_eq, helements, hfiltered, searchSequence]
  split
  · exact Sequence.glob_singleton hsingle file
  · exact Sequence.claim_singleton hsingle _ file

end Criteria

end StructuralSearch
