import Mathlib.Data.Finset.Card
import StructuralSearch.Profile.Tables
import StructuralSearch.Proofs.SequenceVerdict

/-!
# Claims of nested elements

A claim is never taken back, so claims may fail although every element of the query could have a place
of its own.  That does not happen if the elements are nested: of any two, the places that the one which
chooses sooner accepts are either all refused or all accepted by the other one.

The local fact is an exchange (`exists_claimEach_of_nested`).  Suppose every element that is still to
choose has a partner among the free elements.  The first one takes the first place that it accepts.  If
that was the partner of a later element, this element accepts one of the places of the first one, hence
all of them, and it may have the partner that is left over.  So one choice leaves a partner to every
element that follows, and no element goes without a claim.
-/

namespace StructuralSearch

/-- The places of the file elements that a wanted element accepts. -/
def Wanted.acceptedPlaces {ε α : Type} (wanted : Wanted (Except ε) α) (file : List α) : Finset Nat :=
  (Finset.range file.length).filter fun place =>
    file[place]?.any fun x => (Sequence.decided (wanted.accepts x)).run

namespace Sequence

variable {ε α : Type}

/-- A decision that counts is one that was made. -/
theorem decided_eq_true_iff {decision : Except ε Bool} :
    (decided decision).run = true ↔ decision = .ok true := by
  cases decision with
  | error e => simp [decided]
  | ok accepted => simp [decided]

theorem mem_acceptedPlaces_iff {wanted : Wanted (Except ε) α} {file : List α} {place : Nat} :
    place ∈ wanted.acceptedPlaces file ↔
      ∃ x, file[place]? = some x ∧ wanted.accepts x = .ok true := by
  simp only [Wanted.acceptedPlaces, Finset.mem_filter, Finset.mem_range, Option.any_eq_true,
    decided_eq_true_iff]
  constructor
  · intro h
    exact h.2
  · intro h
    obtain ⟨x, hx, haccepts⟩ := h
    exact ⟨(List.getElem?_eq_some_iff.mp hx).1, x, hx, haccepts⟩

/-- The elements of a query that are no rest wildcards have places that they accept, and no two have
the same place. -/
structure Assigns (query : List (Wanted (Except ε) α)) (file : List α) (places : List Nat) : Prop where
  accepted : List.Forall₂ (fun wanted place => place ∈ wanted.acceptedPlaces file)
    (query.filter fun wanted => !wanted.isRest) places
  distinct : places.Nodup

/-- Of any two elements that claim, the places accepted by the one that chooses sooner are refused or
accepted by the other one, one as all. -/
def Nested (query : List (Wanted (Except ε) α)) (file : List α) : Prop :=
  (claimOrder query).Pairwise fun first later =>
    Disjoint (first.2.acceptedPlaces file) (later.2.acceptedPlaces file) ∨
      first.2.acceptedPlaces file ⊆ later.2.acceptedPlaces file

/-! ### Partners among the free elements -/

/-- An element that claims is given a free place that it accepts. -/
def IsPartner (free : List (Nat × α)) (entry : Nat × Wanted Id α) (place : Nat) : Prop :=
  ∃ x, (place, x) ∈ free ∧ (entry.2.accepts x).run = true

/-- When a place is taken, the other partners stay. -/
theorem isPartner_left_iff {before after : List (Nat × α)} {taken place : Nat} {x : α}
    {entry : Nat × Wanted Id α}
    (hfree : (before ++ (taken, x) :: after).Pairwise fun a b => a.1 < b.1) :
    IsPartner (before ++ after) entry place ↔
      IsPartner (before ++ (taken, x) :: after) entry place ∧ place ≠ taken := by
  constructor
  · intro h
    obtain ⟨z, hz, haccepts⟩ := h
    refine ⟨⟨z, ?_, haccepts⟩, ?_⟩
    · exact ((List.sublist_cons_self _ _).append_left before).subset hz
    · intro heq
      have hdistinct : ((before ++ (taken, x) :: after).map Prod.fst).Nodup :=
        List.pairwise_map.mpr (hfree.imp Nat.ne_of_lt)
      have hmiddle := (List.perm_middle.map Prod.fst).nodup_iff.mp hdistinct
      exact (List.nodup_cons.mp hmiddle).1 (List.mem_map.mpr ⟨_, hz, heq⟩)
  · intro h
    obtain ⟨⟨z, hz, haccepts⟩, hne⟩ := h
    refine ⟨z, ?_, haccepts⟩
    rcases List.mem_append.mp hz with hz | hz
    · exact List.mem_append_left _ hz
    · apply List.mem_append_right
      apply (List.mem_cons.mp hz).resolve_left
      intro heq
      exact hne (Prod.mk.inj heq).1

/-- Of two elements, the free places that the first one accepts are all refused or all accepted by the
other one. -/
def NestedIn (free : List (Nat × α)) (first later : Nat × Wanted Id α) : Prop :=
  (∀ place, IsPartner free first place → ¬ IsPartner free later place) ∨
    ∀ place, IsPartner free first place → IsPartner free later place

/-- Elements stay nested when a place is taken. -/
theorem NestedIn.left {before after : List (Nat × α)} {taken : Nat} {x : α}
    {first later : Nat × Wanted Id α}
    (hfree : (before ++ (taken, x) :: after).Pairwise fun a b => a.1 < b.1)
    (h : NestedIn (before ++ (taken, x) :: after) first later) :
    NestedIn (before ++ after) first later := by
  apply h.imp
  · intro hdisjoint place hpartner hlater
    exact hdisjoint place ((isPartner_left_iff hfree).mp hpartner).1
      ((isPartner_left_iff hfree).mp hlater).1
  · intro hcontained place hpartner
    obtain ⟨hbefore, hne⟩ := (isPartner_left_iff hfree).mp hpartner
    exact (isPartner_left_iff hfree).mpr ⟨hcontained place hbefore, hne⟩

/-- **One choice leaves partners to the others.**  Nested elements all make their claims if they have
partners among the free elements, no two the same. -/
theorem exists_claimEach_of_nested {pending : List (Nat × Wanted Id α)} {free : List (Nat × α)}
    {partners : List Nat} (hfree : free.Pairwise fun a b => a.1 < b.1)
    (hnested : pending.Pairwise (NestedIn free))
    (hpartners : List.Forall₂ (IsPartner free) pending partners) (hdistinct : partners.Nodup) :
    ∃ claims, (claimEach pending free).run = some claims := by
  induction pending generalizing free partners with
  | nil => exact ⟨[], rfl⟩
  | cons entry pending ih =>
      obtain ⟨own, others, hown, hothers, rfl⟩ := List.forall₂_cons_left_iff.mp hpartners
      obtain ⟨hfresh, hdistinct⟩ := List.nodup_cons.mp hdistinct
      obtain ⟨hfirst, hnested⟩ := List.pairwise_cons.mp hnested
      obtain ⟨y, hy, hyaccepts⟩ := hown
      obtain ⟨taken, left, htaken, -⟩ := exists_takeFirst_le hfree hy hyaccepts
      obtain ⟨before, x, after, rfl, rfl, hxaccepts, -⟩ := takeFirst_eq_some htaken
      have hless : (before ++ after).Pairwise fun a b => a.1 < b.1 :=
        hfree.sublist ((List.sublist_cons_self _ _).append_left before)
      -- The element that loses its partner to the first one gets the partner of the first one.
      have hexchanged : List.Forall₂ (IsPartner (before ++ after)) pending
          (others.map (Equiv.swap taken own)) := by
        rw [List.forall₂_map_right_iff]
        refine forall₂_imp_of_mem hothers fun later hlater place hplace hpartner => ?_
        apply (isPartner_left_iff hfree).mpr
        have hne : place ≠ own := fun heq => hfresh (heq ▸ hplace)
        by_cases htake : place = taken
        · subst htake
          rw [Equiv.swap_apply_left]
          have hcontained := (hfirst later hlater).resolve_left fun hdisjoint =>
            hdisjoint place ⟨x, by simp, hxaccepts⟩ hpartner
          exact ⟨hcontained own ⟨y, hy, hyaccepts⟩, hne.symm⟩
        · rw [Equiv.swap_apply_of_ne_of_ne htake hne]
          exact ⟨hpartner, htake⟩
      have hstill : (others.map (Equiv.swap taken own)).Nodup :=
        hdistinct.map (Equiv.swap taken own).injective
      obtain ⟨claims, hclaims⟩ := ih hless (hnested.imp (NestedIn.left hfree)) hexchanged hstill
      refine ⟨(entry.1, taken) :: claims, ?_⟩
      rw [claimEach_cons, htaken, Option.bind_some, hclaims]
      rfl

/-! ### Places for all -/

section Failing

variable {query : List (Wanted (Except ε) α)} {file : List α} {places : List Nat}

/-- Seen from the order of the choices, a partner is an accepted place of the file. -/
theorem isPartner_indexed_iff {entry : Nat × Wanted (Except ε) α} {place : Nat} :
    IsPartner (indexed file) (entry.1, entry.2.onto decided) place ↔
      place ∈ entry.2.acceptedPlaces file := by
  simp only [IsPartner, mem_indexed_iff, mem_acceptedPlaces_iff, Wanted.onto, decided_eq_true_iff]

/-- Claims that come out are places for all elements. -/
theorem Assigns.of_claim {ordered : Bool}
    (h : (claim ordered (query.map (Wanted.onto decided)) file).run = some places) :
    Assigns query file places := by
  obtain ⟨haccepted, hdistinct, -⟩ := claim_sound h
  rw [List.filter_map, List.forall₂_map_left_iff] at haccepted
  refine ⟨haccepted.imp fun wanted place hplace => ?_, hdistinct⟩
  obtain ⟨x, hx, haccepts⟩ := hplace
  exact mem_acceptedPlaces_iff.mpr ⟨x, hx, decided_eq_true_iff.mp haccepts⟩

/-- If there are places for all elements, and the elements are nested, then claims come out. -/
theorem Assigns.exists_claim (h : Assigns query file places) (hnested : Nested query file) :
    ∃ claimed, (claim false (query.map (Wanted.onto decided)) file).run = some claimed := by
  have horder := claimOrder_map_onto (h := decided) query
  have hwanted : List.Forall₂ (IsPartner (indexed file))
      ((indexed (query.map (Wanted.onto decided))).filter fun entry => !entry.2.isRest) places := by
    have haccepted := h.accepted
    rw [← map_snd_indexed query, List.filter_map, List.forall₂_map_left_iff] at haccepted
    have hindexed : (indexed (query.map (Wanted.onto decided))).filter
          (fun entry => !entry.2.isRest) =
        ((indexed query).filter fun entry => !entry.2.isRest).map
          fun entry => (entry.1, entry.2.onto decided) := by
      simp [indexed, List.zipIdx_map, List.filter_map, Function.comp_def]
    rw [hindexed, List.forall₂_map_left_iff]
    exact haccepted.imp fun entry place hplace => isPartner_indexed_iff.mpr hplace
  -- The elements choose in another order, and their partners follow them.
  obtain ⟨partners, hpartners, hperm⟩ := List.perm_comp_forall₂
    (List.mergeSort_perm _ fun a b => a.2.strength.le b.2.strength) hwanted
  have hsorted : (claimOrder (query.map (Wanted.onto decided))).Pairwise
      (NestedIn (indexed file)) := by
    rw [horder, List.pairwise_map]
    apply hnested.imp
    intro first later hor
    simp only [NestedIn, isPartner_indexed_iff]
    exact hor.imp (fun hdisjoint place hplace => Finset.disjoint_left.mp hdisjoint hplace)
      fun hcontained place hplace => hcontained hplace
  obtain ⟨claims, hclaims⟩ := exists_claimEach_of_nested (pairwise_indexed file) hsorted hpartners
    (hperm.nodup_iff.mpr h.distinct)
  have hfits : (claimOrder (query.map (Wanted.onto decided))).length ≤ file.length := by
    apply length_le_of_places (hpartners.imp fun entry place hplace => ?_)
      (hperm.nodup_iff.mpr h.distinct)
    · exact fun entry x => (entry.2.accepts x).run = true
    · obtain ⟨x, hx, haccepts⟩ := hplace
      exact ⟨x, mem_indexed_iff.mp hx, haccepts⟩
  exact ⟨_, claim_eq_some_iff.mpr ⟨hfits, ⟨claims, hclaims, rfl⟩, by simp⟩⟩

/-- **First fit finds places for nested elements.**  If the elements that claim do not fail to decide
and are nested, then claims come out exactly if there are places for all elements, and the claims are
such places. -/
theorem claim_of_nested (hsure : Decides query file) (hnested : Nested query file) :
    ∃ claims, claim false query file = .ok claims ∧
      (claims.isSome = true ↔ ∃ places, Assigns query file places) ∧
      ∀ places ∈ claims, Assigns query file places := by
  have hsound : ∀ places ∈ (claim false (query.map (Wanted.onto decided)) file).run,
      Assigns query file places := fun _ hplaces => .of_claim hplaces
  refine ⟨_, claim_eq_ok false hsure, ?_, hsound⟩
  constructor
  · intro h
    obtain ⟨places, hplaces⟩ := Option.isSome_iff_exists.mp h
    exact ⟨places, hsound places hplaces⟩
  · intro h
    obtain ⟨places, hplaces⟩ := h
    obtain ⟨claimed, hclaimed⟩ := hplaces.exists_claim hnested
    rw [hclaimed]
    rfl

end Failing

end Sequence

namespace Criteria

variable {criteria : Criteria}

/-- **Nested nodes get their places.**  In the mode without order, suppose no comparison of a query node
that claims with a file node fails, and of any two of these nodes, the places that the one which chooses
sooner accepts are all refused or all accepted by the other one.  Then the claims are made, each at a
place of its own that the node accepts, whenever there are such places at all, and otherwise there are
no claims, also where the file is too short. -/
theorem claims_complete_of_nested (hmode : criteria.mode = .includeAny) {queries files : List Node}
    (hsure : ∀ query ∈ queries, criteria.asks query = true → ∀ file ∈ files,
      ∃ accepted, (criteria.element query).accepts file = .ok accepted)
    (hnested : Sequence.Nested (queries.map criteria.element) files) (tally : Tally) :
    ∃ claims,
      (Sequence.claim (criteria.mode == .includeOrdered)
        (queries.map fun query => criteria.wantedOf query (criteria.validate query)) files
        tally).1 = .ok claims ∧
      (claims.isSome = true ↔
        ∃ places, Sequence.Assigns (queries.map criteria.element) files places) ∧
      ∀ places ∈ claims, Sequence.Assigns (queries.map criteria.element) files places := by
  have honto : (queries.map fun query => criteria.wantedOf query (criteria.validate query)).map
      (Wanted.onto Matching.outcome) = queries.map criteria.element := by
    rw [List.map_map]
    exact List.map_congr_left fun query _ => criteria.onto_outcome_wantedOf query
  have hsteady : ∀ wanted ∈ queries.map fun query =>
      criteria.wantedOf query (criteria.validate query),
      ∀ file, Matching.Yields (wanted.accepts file) (Matching.outcome (wanted.accepts file)) := by
    intro wanted hwanted file
    obtain ⟨query, -, rfl⟩ := List.mem_map.mp hwanted
    simp only [wantedOf]
    split
    · exact Matching.runsAlongside_yields.pure true
    · exact criteria.steady_validate query file
  have hyields := Sequence.claim_alongside Matching.runsAlongside_yields
    (criteria.mode == .includeOrdered) hsteady files
  rw [honto] at hyields
  obtain ⟨cost, hcost⟩ := hyields
  have hclaiming : ∀ wanted ∈ queries.map criteria.element, wanted.isRest = false →
      ∀ file ∈ files, ∃ accepted, wanted.accepts file = .ok accepted := by
    intro wanted hwanted hrest
    obtain ⟨query, hquery, rfl⟩ := List.mem_map.mp hwanted
    exact hsure query hquery (bne_iff_ne.mpr (beq_eq_false_iff_ne.mp hrest))
  rw [hcost, hmode]
  exact Sequence.claim_of_nested hclaiming hnested

/-- A name as a node. -/
def nameNode (text : String) : Node where
  kind := "identifier"
  span := ⟨⟨1, 1, 0⟩, ⟨1, 1, 0⟩⟩
  text := some text

/-- Of the names `$`, `a$` and `ab`, wanted among `b`, `ab` and `ac`, the last one chooses first and the
first one last, and each of them accepts what those accept that choose sooner. -/
theorem names_claimed :
    let criteria : Criteria := ⟨.typescript, .includeAny, false⟩
    let queries := ["$", "a$", "ab"].map nameNode
    let files := ["b", "ab", "ac"].map nameNode
    Sequence.Nested (queries.map criteria.element) files ∧
    ∃ places,
      (Sequence.claim (criteria.mode == .includeOrdered)
        (queries.map fun query => criteria.wantedOf query (criteria.validate query)) files
        {}).1 = .ok (some places) ∧
      Sequence.Assigns (queries.map criteria.element) files places := by
  intro criteria queries files
  have hsure : ∀ query ∈ queries, criteria.asks query = true → ∀ file ∈ files,
      ∃ accepted, (criteria.element query).accepts file = .ok accepted := by
    have hdecided : ∀ query ∈ queries, ∀ file ∈ files,
        (criteria.element query).accepts file = .ok true ∨
          (criteria.element query).accepts file = .ok false := by decide +kernel
    intro query hquery _ file hfile
    rcases hdecided query hquery file hfile with h | h
    · exact ⟨true, h⟩
    · exact ⟨false, h⟩
  have hnested : Sequence.Nested (queries.map criteria.element) files := by
    have hplaces : (Sequence.claimOrder (queries.map criteria.element)).map
        (fun entry => entry.2.acceptedPlaces files) = [{1}, {1, 2}, {0, 1, 2}] := by
      rw [Sequence.claimOrder_eq_insertionSort]
      decide +kernel
    have hpairs : ((Sequence.claimOrder (queries.map criteria.element)).map
        fun entry => entry.2.acceptedPlaces files).Pairwise
        fun first later => Disjoint first later ∨ first ⊆ later := by
      rw [hplaces]
      decide
    exact List.pairwise_map.mp hpairs
  have hassigns : Sequence.Assigns (queries.map criteria.element) files [0, 2, 1] := by
    constructor
    · rw [List.filter_eq_self.mpr (by decide +kernel)]
      exact .cons (by decide +kernel) (.cons (by decide +kernel) (.cons (by decide +kernel) .nil))
    · decide
  refine ⟨hnested, ?_⟩
  obtain ⟨claims, hclaims, hsome, hsound⟩ := claims_complete_of_nested rfl hsure hnested {}
  obtain ⟨places, rfl⟩ := Option.isSome_iff_exists.mp (hsome.mpr ⟨_, hassigns⟩)
  exact ⟨places, hclaims, hsound places rfl⟩

/-- The names `$x` and `a$` are not nested among `ax` and `bx`: the first one takes the only place of the
other one, and nothing is claimed. -/
example : ((Sequence.claim false
    ((["$x", "a$"].map nameNode).map (Criteria.element ⟨.typescript, .includeAny, false⟩))
    (["ax", "bx"].map nameNode)) : Except SearchError (Option (List Nat))) = .ok none := by
  simp only [Sequence.claim_eq_claimByInsertion]
  decide +kernel

end Criteria

end StructuralSearch
