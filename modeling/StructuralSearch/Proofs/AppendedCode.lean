import StructuralSearch.Proofs.Claiming
import StructuralSearch.Proofs.Verdict

/-!
# Appended code

In the include modes the elements of a query claim file elements from the left, and a claim is never
taken back.  So whatever is appended to the file is looked at only by an element that has found no
partner before, and where all elements find partners, appending changes nothing: the same claims are
made after the same comparisons.

The local fact is `takeFirst_append`.  It passes to the claims of all elements
(`claimEach_append`) and from there through the length test, the sorting and the test of the order
(`claim_append`) to statements and sequences (`undisturbed_by_appended`).
-/

namespace StructuralSearch

open Matching

namespace Sequence

variable {α : Type} {tally after : Tally}

/-- The elements of a list keep their numbers when others follow. -/
theorem exists_indexed_append (file more : List α) :
    ∃ later, indexed (file ++ more) = indexed file ++ later := by
  refine ⟨(more.zipIdx file.length).map fun entry => (entry.2, entry.1), ?_⟩
  rw [indexed, indexed, List.zipIdx_append, List.map_append, Nat.zero_add]

/-- The first accepted element is found before the search comes to what was appended. -/
theorem takeFirst_append {accepts : α → Matching Bool} {free left : List (Nat × α)} {index : Nat}
    (more : List (Nat × α))
    (h : takeFirst accepts free tally = (.ok (some (index, left)), after)) :
    takeFirst accepts (free ++ more) tally = (.ok (some (index, left ++ more)), after) := by
  induction free generalizing tally left with
  | nil => cases h
  | cons entry free ih =>
      obtain ⟨place, x⟩ := entry
      rw [List.cons_append]
      rw [takeFirst, run_bind_eq_ok_iff] at h ⊢
      obtain ⟨accepted, between, hx, h⟩ := h
      refine ⟨accepted, between, hx, ?_⟩
      cases accepted with
      | true =>
          cases h
          rfl
      | false =>
          simp only [Bool.false_eq_true, ↓reduceIte] at h ⊢
          rw [run_bind_eq_ok_iff] at h ⊢
          obtain ⟨taken, later, htaken, h⟩ := h
          cases taken with
          | none => cases h
          | some taken =>
              cases h
              exact ⟨_, _, ih htaken, rfl⟩

/-- Elements that all make their claims make the same ones when more elements are free behind. -/
theorem claimEach_append {pending : List (Nat × Wanted Matching α)} {free : List (Nat × α)}
    {claims : List (Nat × Nat)} (more : List (Nat × α))
    (h : claimEach pending free tally = (.ok (some claims), after)) :
    claimEach pending (free ++ more) tally = (.ok (some claims), after) := by
  induction pending generalizing free tally claims with
  | nil => exact h
  | cons entry pending ih =>
      obtain ⟨order, wanted⟩ := entry
      rw [claimEach, run_bind_eq_ok_iff] at h ⊢
      obtain ⟨taken, between, htaken, h⟩ := h
      cases taken with
      | none => cases h
      | some taken =>
          refine ⟨_, between, takeFirst_append more htaken, ?_⟩
          dsimp only at h ⊢
          rw [run_bind_eq_ok_iff] at h ⊢
          obtain ⟨others, later, hothers, h⟩ := h
          cases others with
          | none => cases h
          | some others =>
              cases h
              exact ⟨_, _, ih hothers, rfl⟩

/-- **Claims stay.**  Claims that come out for a file come out for the file with more behind it. -/
theorem claim_append {ordered : Bool} {query : List (Wanted Matching α)} {file : List α}
    {places : List Nat} (more : List α)
    (h : claim ordered query file tally = (.ok (some places), after)) :
    claim ordered query (file ++ more) tally = (.ok (some places), after) := by
  unfold claim at h ⊢
  dsimp only at h ⊢
  split at h
  · cases h
  · rename_i hlength
    rw [if_neg (by rw [List.length_append]; omega)]
    obtain ⟨later, hindexed⟩ := exists_indexed_append file more
    rw [run_bind_eq_ok_iff] at h ⊢
    obtain ⟨claims, between, hclaims, h⟩ := h
    cases claims with
    | none => cases h
    | some claims =>
        rw [hindexed]
        exact ⟨_, between, claimEach_append later hclaims, h⟩

end Sequence

namespace Criteria

variable {criteria : Criteria}

/-- The span of claimed places does not depend on what follows. -/
theorem coverOfPlaces?_append {file : List Node} {places : List Nat} {span : Span}
    (more : List Node) (h : coverOfPlaces? file places = some span) :
    coverOfPlaces? (file ++ more) places = some span := by
  have hget : ∀ {place : Nat} {node : Node}, file[place]? = some node →
      (file ++ more)[place]? = some node := by
    intro place node hnode
    rw [List.getElem?_append_left (List.getElem?_eq_some_iff.mp hnode).1, hnode]
  unfold coverOfPlaces? at h ⊢
  simp only [Option.bind_eq_bind, Option.bind_eq_some_iff] at h ⊢
  obtain ⟨low, hlow, first, hfirst, high, hhigh, last, hlast, h⟩ := h
  exact ⟨low, hlow, first, hget hfirst, high, hhigh, last, hget hlast, h⟩

/-- In an include mode statements have a nonempty result if they make claims that cover a span. -/
theorem matchStatements_eq_singleton_iff (hmode : criteria.mode ≠ .exact) {queries body : List Node}
    {spans : List Span} {tally after : Tally} (hspans : spans ≠ []) :
    criteria.matchStatements queries body tally = (.ok spans, after) ↔
      ∃ places span, spans = [span] ∧
        Sequence.claim (criteria.mode == .includeOrdered) (criteria.wantedAll queries)
          (body.filter criteria.profile.isComparable) tally = (.ok (some places), after) ∧
        coverOfPlaces? (body.filter criteria.profile.isComparable) places = some span := by
  unfold matchStatements
  rw [if_neg hmode, run_bind_eq_ok_iff]
  constructor
  · intro h
    obtain ⟨claimed, between, hclaim, h⟩ := h
    cases claimed with
    | none =>
        cases h
        exact absurd rfl hspans
    | some places =>
        cases hcover : coverOfPlaces? (body.filter criteria.profile.isComparable) places with
        | none =>
            simp only [hcover] at h
            cases h
            exact absurd rfl hspans
        | some span =>
            simp only [hcover] at h
            cases h
            exact ⟨places, span, rfl, hclaim, hcover⟩
  · intro h
    obtain ⟨places, span, rfl, hclaim, hcover⟩ := h
    refine ⟨some places, after, hclaim, ?_⟩
    simp only [hcover]
    rfl

/-- In an include mode sequences match if claims are made. -/
theorem validateSequence_eq_true_iff (hmode : criteria.mode ≠ .exact) {queries files : List Node}
    {tally after : Tally} :
    criteria.validateSequence queries files tally = (.ok true, after) ↔
      ∃ places, Sequence.claim (criteria.mode == .includeOrdered) (criteria.wantedAll queries)
        (files.filter criteria.profile.isComparable) tally = (.ok (some places), after) := by
  unfold validateSequence matchSequence
  rw [if_neg hmode, run_bind_eq_ok_iff]
  constructor
  · intro h
    obtain ⟨claimed, between, hclaim, h⟩ := h
    cases claimed with
    | none => cases h
    | some places =>
        cases h
        exact ⟨places, hclaim⟩
  · intro h
    obtain ⟨places, hclaim⟩ := h
    exact ⟨some places, after, hclaim, rfl⟩

/-- **Appended code disturbs no match.**  In an include mode, statements that are found in a body are
found at the same place when other nodes follow, and sequences that match still match when elements
are appended to the file sequence.  Not even the number of comparisons changes. -/
theorem undisturbed_by_appended (hmode : criteria.mode ≠ .exact) (queries body more : List Node)
    (tally : Tally) :
    (∀ spans, (criteria.matchStatements queries body tally).1 = .ok spans → spans ≠ [] →
      criteria.matchStatements queries (body ++ more) tally =
        criteria.matchStatements queries body tally) ∧
    ((criteria.validateSequence queries body tally).1 = .ok true →
      criteria.validateSequence queries (body ++ more) tally =
        criteria.validateSequence queries body tally) := by
  constructor
  · intro spans houtcome hspans
    obtain ⟨after, hrun⟩ : ∃ after, criteria.matchStatements queries body tally =
        (.ok spans, after) := ⟨_, Prod.ext houtcome rfl⟩
    obtain ⟨places, span, rfl, hclaim, hcover⟩ :=
      (matchStatements_eq_singleton_iff hmode hspans).mp hrun
    rw [hrun, matchStatements_eq_singleton_iff hmode hspans, List.filter_append]
    exact ⟨places, span, rfl, Sequence.claim_append _ hclaim, coverOfPlaces?_append _ hcover⟩
  · intro houtcome
    obtain ⟨after, hrun⟩ : ∃ after, criteria.validateSequence queries body tally =
        (.ok true, after) := ⟨_, Prod.ext houtcome rfl⟩
    obtain ⟨places, hclaim⟩ := (validateSequence_eq_true_iff hmode).mp hrun
    rw [hrun, validateSequence_eq_true_iff hmode, List.filter_append]
    exact ⟨places, Sequence.claim_append _ hclaim⟩

/-- The names `a$` and `c` are found with order in `x ab d c`, from `ab` to `c`, and so they are in
`x ab d c ac c`, although `a$` accepts `ac` too. -/
theorem names_undisturbed :
    let criteria : Criteria := ⟨.typescript, .includeOrdered, false⟩
    let queries : List Node := [.nameAt "a$" 0 2, .nameAt "c" 3 4]
    let body : List Node := [.nameAt "x" 0 1, .nameAt "ab" 2 4, .nameAt "d" 5 6, .nameAt "c" 7 8]
    let more : List Node := [.nameAt "ac" 9 11, .nameAt "c" 12 13]
    criteria.mode ≠ .exact ∧
    (criteria.matchStatements queries body {}).1 = .ok [⟨⟨1, 3, 2⟩, ⟨1, 9, 8⟩⟩] ∧
    criteria.matchStatements queries (body ++ more) {} = criteria.matchStatements queries body {} ∧
    (criteria.validateSequence queries body {}).1 = .ok true ∧
    criteria.validateSequence queries (body ++ more) {} =
      criteria.validateSequence queries body {} := by
  intro criteria queries body more
  have hmode : criteria.mode ≠ .exact := by decide
  have hstatements : (criteria.matchStatements queries body {}).1 =
      .ok [⟨⟨1, 3, 2⟩, ⟨1, 9, 8⟩⟩] := by
    simp only [matchStatements, Sequence.claim_eq_claimByInsertion]
    decide +kernel
  have hsequence : (criteria.validateSequence queries body {}).1 = .ok true := by
    simp only [validateSequence, matchSequence, Sequence.claim_eq_claimByInsertion]
    decide +kernel
  obtain ⟨hfound, hmatch⟩ := undisturbed_by_appended hmode queries body more {}
  exact ⟨hmode, hstatements, hfound _ hstatements (by simp), hsequence, hmatch hsequence⟩

end Criteria

end StructuralSearch
