import Mathlib.Data.List.Forall2
import Mathlib.Data.List.Pairwise
import Mathlib.Data.List.Sort
import Mathlib.Data.List.TakeWhile
import StructuralSearch.Proofs.SequenceRuns

/-!
# What claims come to

The elements of a query choose one after the other, the most specific ones first, and each takes the
first element of the file that is still free and that it accepts.  Afterwards the claims are put back
into the order of the query.

Whatever the order of the choices was, the places that come out are one place for each element that
is no rest wildcard, in the order of the query; the element there is accepted; no place comes twice;
and where order is asked for, the places increase (`claim_sound`).
-/

namespace StructuralSearch

namespace Sequence

variable {α β : Type}

/-! ### Numbered lists -/

/-- A list is numbered by the places of its elements. -/
theorem mem_indexed_iff {items : List β} {index : Nat} {item : β} :
    (index, item) ∈ indexed items ↔ items[index]? = some item := by
  simp only [indexed, List.mem_map, Prod.exists, Prod.mk.injEq]
  constructor
  · rintro ⟨_, _, hmem, rfl, rfl⟩
    exact List.mem_zipIdx_iff_getElem?.mp hmem
  · intro h
    exact ⟨item, index, List.mem_zipIdx_iff_getElem?.mpr h, rfl, rfl⟩

/-- Without the numbers the list is what it was. -/
theorem map_snd_indexed (items : List β) : (indexed items).map Prod.snd = items := by
  simp [indexed, List.map_map, Function.comp_def]

/-- The numbers are the places of the list, in order. -/
theorem map_fst_indexed (items : List β) :
    (indexed items).map Prod.fst = List.range items.length := by
  rw [indexed, List.map_map, List.range_eq_range']
  exact List.zipIdx_map_snd 0 items

theorem length_indexed (items : List β) : (indexed items).length = items.length := by
  rw [← List.length_map, map_snd_indexed]

/-- The numbers increase. -/
theorem pairwise_indexed (items : List β) :
    (indexed items).Pairwise fun a b => a.1 < b.1 := by
  rw [← List.pairwise_map, map_fst_indexed]
  exact List.pairwise_lt_range

/-- No number comes twice. -/
theorem nodup_map_fst_indexed (items : List β) : ((indexed items).map Prod.fst).Nodup := by
  rw [map_fst_indexed]
  exact List.nodup_range

/-- What has the smaller number comes first. -/
theorem pair_sublist_indexed {items : List β} {first later : Nat × β}
    (hfirst : first ∈ indexed items) (hlater : later ∈ indexed items)
    (hless : first.1 < later.1) : List.Sublist [first, later] (indexed items) := by
  obtain ⟨front, back, heq⟩ := List.append_of_mem hfirst
  have hpairwise := pairwise_indexed items
  rw [heq] at hlater hpairwise ⊢
  have hfront : later ∉ front := by
    intro hmem
    have hbefore := (List.pairwise_append.mp hpairwise).2.2 later hmem first List.mem_cons_self
    omega
  have hback : later ∈ back := by
    rcases List.mem_append.mp hlater with hmem | hmem
    · exact absurd hmem hfront
    · rcases List.mem_cons.mp hmem with rfl | hmem
      · exact absurd hless (Nat.lt_irrefl _)
      · exact hmem
  exact ((List.singleton_sublist.mpr hback).cons_cons first).trans
    (List.sublist_append_right front _)

/-- The test for increasing numbers says that each number is smaller than all later ones. -/
theorem increasing_iff {numbers : List Nat} :
    increasing numbers = true ↔ numbers.Pairwise (· < ·) := by
  induction numbers with
  | nil => simp [increasing]
  | cons a rest ih =>
      cases rest with
      | nil => simp [increasing]
      | cons b rest =>
          rw [increasing, Bool.and_eq_true, decide_eq_true_eq, ih]
          constructor
          · rintro ⟨hab, hrest⟩
            refine .cons (fun c hc => ?_) hrest
            rcases List.mem_cons.mp hc with rfl | hc
            · exact hab
            · exact Nat.lt_trans hab (List.rel_of_pairwise_cons hrest hc)
          · intro hall
            exact ⟨List.rel_of_pairwise_cons hall List.mem_cons_self, hall.tail⟩

/-! ### One claim after the other -/

section Claims

variable {accepts : α → Id Bool} {free : List (Nat × α)}

theorem takeFirst_cons (index : Nat) (x : α) (free : List (Nat × α)) :
    (takeFirst accepts ((index, x) :: free)).run =
      if (accepts x).run then some (index, free)
      else (takeFirst accepts free).run.map fun taken => (taken.1, (index, x) :: taken.2) := by
  simp only [takeFirst, Id.run_bind]
  cases (accepts x).run with
  | true => rfl
  | false =>
      simp only [Bool.false_eq_true, ↓reduceIte, Id.run_bind]
      cases (takeFirst accepts free).run <;> rfl

theorem claimEach_cons (order : Nat) (wanted : Wanted Id α) (pending : List (Nat × Wanted Id α))
    (free : List (Nat × α)) :
    (claimEach ((order, wanted) :: pending) free).run =
      (takeFirst wanted.accepts free).run.bind fun taken =>
        (claimEach pending taken.2).run.map fun claims => (order, taken.1) :: claims := by
  simp only [claimEach, Id.run_bind]
  cases (takeFirst wanted.accepts free).run with
  | none => rfl
  | some taken =>
      obtain ⟨index, left⟩ := taken
      simp only [Id.run_bind, Option.bind_some]
      cases (claimEach pending left).run <;> rfl

/-- The first accepted element is taken out, and those before it are not accepted. -/
theorem takeFirst_eq_some {place : Nat} {left : List (Nat × α)}
    (h : (takeFirst accepts free).run = some (place, left)) :
    ∃ before x after, free = before ++ (place, x) :: after ∧ left = before ++ after ∧
      (accepts x).run = true ∧ ∀ entry ∈ before, (accepts entry.2).run = false := by
  induction free generalizing left with
  | nil => cases h
  | cons entry free ih =>
      obtain ⟨index, x⟩ := entry
      rw [takeFirst_cons] at h
      cases haccepted : (accepts x).run with
      | true =>
          rw [haccepted] at h
          obtain ⟨rfl, rfl⟩ := Prod.mk.inj (Option.some.inj h)
          exact ⟨[], x, free, rfl, rfl, haccepted, by simp⟩
      | false =>
          simp only [haccepted, Bool.false_eq_true, ↓reduceIte, Option.map_eq_some_iff] at h
          obtain ⟨⟨later, rest⟩, htaken, heq⟩ := h
          obtain ⟨rfl, rfl⟩ := Prod.mk.inj heq
          obtain ⟨before, y, after, rfl, rfl, hy, hbefore⟩ := ih htaken
          refine ⟨(index, x) :: before, y, after, rfl, rfl, hy, fun entry hentry => ?_⟩
          rcases List.mem_cons.mp hentry with rfl | hentry
          · exact haccepted
          · exact hbefore entry hentry

/-- A wanted element has made this claim among the free elements: the claim bears its number, and
the element at the claimed place is accepted. -/
def IsClaim (free : List (Nat × α)) (entry : Nat × Wanted Id α) (claim : Nat × Nat) : Prop :=
  claim.1 = entry.1 ∧ ∃ x, (claim.2, x) ∈ free ∧ (entry.2.accepts x).run = true

/-- Claims that were made in turn are claims of their elements, they are on free places, and no place
is claimed twice. -/
theorem claimEach_sound {pending : List (Nat × Wanted Id α)} {claims : List (Nat × Nat)}
    (hfree : (free.map Prod.fst).Nodup) (h : (claimEach pending free).run = some claims) :
    List.Forall₂ (IsClaim free) pending claims ∧
      (∀ place ∈ claims.map Prod.snd, place ∈ free.map Prod.fst) ∧
      (claims.map Prod.snd).Nodup := by
  induction pending generalizing free claims with
  | nil =>
      obtain rfl := Option.some.inj h
      exact ⟨.nil, by simp, .nil⟩
  | cons entry pending ih =>
      obtain ⟨order, wanted⟩ := entry
      rw [claimEach_cons, Option.bind_eq_some_iff] at h
      obtain ⟨⟨place, left⟩, htaken, h⟩ := h
      obtain ⟨later, hlater, rfl⟩ := Option.map_eq_some_iff.mp h
      obtain ⟨before, x, after, rfl, rfl, haccepts, -⟩ := takeFirst_eq_some htaken
      have hsublist : List.Sublist (before ++ after) (before ++ (place, x) :: after) :=
        (List.sublist_cons_self _ _).append_left before
      obtain ⟨hclaims, hplaces, hdistinct⟩ := ih (hfree.sublist (hsublist.map _)) hlater
      have hfresh : place ∉ (before ++ after).map Prod.fst := by
        have hnodup := (List.perm_middle.map Prod.fst).nodup_iff.mp hfree
        exact (List.nodup_cons.mp hnodup).1
      refine ⟨.cons ⟨rfl, x, by simp, haccepts⟩ ?_, ?_, ?_⟩
      · exact hclaims.imp fun _ _ ⟨heq, y, hy, hyaccepts⟩ =>
          ⟨heq, y, hsublist.subset hy, hyaccepts⟩
      · intro other hother
        rcases List.mem_cons.mp hother with rfl | hother
        · simp
        · exact (hsublist.map Prod.fst).subset (hplaces other hother)
      · exact List.nodup_cons.mpr ⟨fun hother => hfresh (hplaces _ hother), hdistinct⟩

end Claims

/-! ### Sorting by insertion -/

theorem Strength.le_trans (a b c : Strength) (hab : a.le b = true) (hbc : b.le c = true) :
    a.le c = true := by
  simp only [Strength.le, Bool.or_eq_true, Bool.and_eq_true, decide_eq_true_eq, beq_iff_eq] at *
  omega

theorem Strength.le_total (a b : Strength) : (a.le b || b.le a) = true := by
  simp only [Strength.le, Bool.or_eq_true, Bool.and_eq_true, decide_eq_true_eq, beq_iff_eq]
  omega

/-- A merge sort gives what inserting the items does, one by one from the last to the first. -/
theorem mergeSort_eq_insertionSort {le : β → β → Bool}
    (htrans : ∀ a b c, le a b = true → le b c = true → le a c = true)
    (htotal : ∀ a b, (le a b || le b a) = true) (items : List β) :
    items.mergeSort le = items.insertionSort fun a b => le a b = true := by
  induction items with
  | nil => simp
  | cons item items ih =>
      obtain ⟨front, back, hsorted, hrest, hfront⟩ := List.mergeSort_cons htrans htotal item items
      have hback : ∀ other ∈ back, le item other = true := by
        have h := List.pairwise_mergeSort htrans htotal (item :: items)
        rw [hsorted] at h
        exact (List.pairwise_cons.mp (List.pairwise_append.mp h).2.1).1
      have hpasses : ∀ other ∈ front, decide (¬ le item other = true) = true := by
        simpa using hfront
      rw [List.insertionSort_cons, ← ih, hsorted, hrest, List.orderedInsert_eq_take_drop,
        List.takeWhile_append_of_pos hpasses, List.dropWhile_append_of_pos hpasses]
      cases back with
      | nil => simp
      | cons other back => simp [hback]

/-- The elements that make a claim may be inserted in the order in which they choose. -/
theorem claimOrder_eq_insertionSort {m : Type → Type} (query : List (Wanted m α)) :
    claimOrder query = ((indexed query).filter fun entry => !entry.2.isRest).insertionSort
      fun a b => a.2.strength.le b.2.strength = true :=
  mergeSort_eq_insertionSort
    (fun a b c => Strength.le_trans a.2.strength b.2.strength c.2.strength)
    (fun a b => Strength.le_total a.2.strength b.2.strength) _

/-- Claims may be inserted in the order of the query. -/
theorem mergeSort_claims_eq_insertionSort (claims : List (Nat × Nat)) :
    (claims.mergeSort fun a b => a.1 ≤ b.1) =
      claims.insertionSort fun a b => decide (a.1 ≤ b.1) = true := by
  refine mergeSort_eq_insertionSort ?_ ?_ claims
  · intro a b c hab hbc
    simp only [decide_eq_true_eq] at *
    omega
  · intro a b
    simp only [Bool.or_eq_true, decide_eq_true_eq]
    omega

/-- `claim`, with the elements and their claims put in order by insertion.  Insertion follows the list
item by item, so the kernel can evaluate it, unlike a merge sort of halves. -/
def claimByInsertion {m : Type → Type} [Monad m] (ordered : Bool) (query : List (Wanted m α))
    (file : List α) : m (Option (List Nat)) := do
  let pending := ((indexed query).filter fun entry => !entry.2.isRest).insertionSort
    fun a b => a.2.strength.le b.2.strength = true
  if file.length < pending.length then return none
  else
    let claims ← claimEach pending (indexed file)
    return claims.bind fun claims =>
      let places := (claims.insertionSort fun a b => decide (a.1 ≤ b.1) = true).map (·.2)
      if ordered && !increasing places then none else some places

/-- Both ways to put claims in order give the same places. -/
theorem claim_eq_claimByInsertion {m : Type → Type} [Monad m] (ordered : Bool)
    (query : List (Wanted m α)) (file : List α) :
    claim ordered query file = claimByInsertion ordered query file := by
  simp only [claim, claimByInsertion, claimOrder_eq_insertionSort]
  split
  · rfl
  · refine congrArg (claimEach _ (indexed file) >>= ·) (funext fun claims => ?_)
    cases claims with
    | none => rfl
    | some claims => simp only [mergeSort_claims_eq_insertionSort, Option.bind_some]

/-! ### Back in the order of the query -/

/-- Sorting by number two lists that are related element by element, with the same numbers. -/
theorem forall₂_mergeSort {R : Nat × β → Nat × α → Prop} {as : List (Nat × β)}
    {bs : List (Nat × α)} (h : List.Forall₂ R as bs) (hkeys : ∀ a b, R a b → b.1 = a.1) :
    List.Forall₂ R (as.mergeSort fun a a' => a.1 ≤ a'.1) (bs.mergeSort fun b b' => b.1 ≤ b'.1) := by
  have hlength := h.length_eq
  have hpairs : ∀ pair ∈ as.zip bs, R pair.1 pair.2 := fun pair hpair =>
    List.forall₂_zip h hpair
  have has : (((as.zip bs).mergeSort fun p p' => p.1.1 ≤ p'.1.1).map Prod.fst) =
      as.mergeSort fun a a' => a.1 ≤ a'.1 := by
    rw [List.map_mergeSort (s := fun a a' : Nat × β => a.1 ≤ a'.1) (by intros; rfl),
      List.map_fst_zip (by omega)]
  have hbs : (((as.zip bs).mergeSort fun p p' => p.1.1 ≤ p'.1.1).map Prod.snd) =
      bs.mergeSort fun b b' => b.1 ≤ b'.1 := by
    rw [List.map_mergeSort (s := fun b b' : Nat × α => b.1 ≤ b'.1), List.map_snd_zip (by omega)]
    intro p hp p' hp'
    rw [hkeys _ _ (hpairs p hp), hkeys _ _ (hpairs p' hp')]
  rw [← has, ← hbs, List.forall₂_map_left_iff, List.forall₂_map_right_iff, List.forall₂_same]
  intro pair hpair
  exact hpairs pair (List.mem_mergeSort.mp hpair)

/-- Sorting by number brings a list with increasing numbers back from any order. -/
theorem mergeSort_eq_of_perm {as bs : List (Nat × β)} (hperm : as.Perm bs)
    (hincreasing : bs.Pairwise fun a b => a.1 < b.1) :
    (as.mergeSort fun a b => a.1 ≤ b.1) = bs := by
  have hsame : ∀ a ∈ bs, ∀ b ∈ bs, a.1 = b.1 → a = b :=
    List.Pairwise.forall_of_forall_of_flip (fun _ _ _ => rfl)
      (hincreasing.imp fun hless heq => absurd heq (Nat.ne_of_lt hless))
      (hincreasing.imp fun hless heq => absurd heq.symm (Nat.ne_of_lt hless))
  refine List.Perm.eq_of_pairwise ?_ (List.pairwise_mergeSort ?_ ?_ _)
    (hincreasing.imp fun h => by simpa using Nat.le_of_lt h)
    ((List.mergeSort_perm _ _).trans hperm)
  · intro a b ha hb hab hba
    simp only [decide_eq_true_eq] at hab hba
    exact hsame a (hperm.subset (List.mem_mergeSort.mp ha)) b hb (Nat.le_antisymm hab hba)
  · intro a b c hab hbc
    simp only [decide_eq_true_eq] at *
    omega
  · intro a b
    simp only [Bool.or_eq_true, decide_eq_true_eq]
    omega

/-- The elements that make a claim, in the order of the query. -/
theorem mergeSort_claimOrder (query : List (Wanted Id α)) :
    ((claimOrder query).mergeSort fun a b => a.1 ≤ b.1) =
      (indexed query).filter fun entry => !entry.2.isRest :=
  mergeSort_eq_of_perm (List.mergeSort_perm _ _) ((pairwise_indexed query).filter _)

/-- Sorted by number, the claims are those of the elements in the order of the query. -/
theorem forall₂_mergeSort_claims {query : List (Wanted Id α)} {free : List (Nat × α)}
    {claims : List (Nat × Nat)} (h : List.Forall₂ (IsClaim free) (claimOrder query) claims) :
    List.Forall₂ (IsClaim free) ((indexed query).filter fun entry => !entry.2.isRest)
      (claims.mergeSort fun a b => a.1 ≤ b.1) := by
  rw [← mergeSort_claimOrder]
  exact forall₂_mergeSort h fun _ _ hclaim => hclaim.1

/-- A claim comes out if there are enough elements in the file, every element can make its claim, and
the places are in order where that is asked for. -/
theorem claim_eq_some_iff {ordered : Bool} {query : List (Wanted Id α)} {file : List α}
    {places : List Nat} :
    (claim ordered query file).run = some places ↔
      (claimOrder query).length ≤ file.length ∧
      (∃ claims, (claimEach (claimOrder query) (indexed file)).run = some claims ∧
        (claims.mergeSort fun a b => a.1 ≤ b.1).map Prod.snd = places) ∧
      (ordered = true → places.Pairwise (· < ·)) := by
  simp only [claim]
  split
  · rename_i hlength
    constructor
    · intro h
      cases h
    · rintro ⟨hfits, -⟩
      omega
  · rename_i hlength
    rw [Id.run_bind]
    cases hclaims : (claimEach (claimOrder query) (indexed file)).run with
    | none => simp
    | some claims =>
        simp only [Option.some.injEq, exists_eq_left', ← increasing_iff]
        constructor
        · intro h
          cases hincreasing : increasing
              ((claims.mergeSort fun a b => a.1 ≤ b.1).map Prod.snd) <;> cases ordered <;>
            simp_all
        · rintro ⟨-, rfl, hordered⟩
          cases ordered <;> simp_all

/-- **Claims are sound.**  Each element that is no rest wildcard has got a place, in the order of the
query; it accepts the element of the file there; no place comes twice; and where order is asked for,
the places increase. -/
theorem claim_sound {ordered : Bool} {query : List (Wanted Id α)} {file : List α}
    {places : List Nat} (h : (claim ordered query file).run = some places) :
    List.Forall₂ (fun wanted place => ∃ x, file[place]? = some x ∧ (wanted.accepts x).run = true)
      (query.filter fun wanted => !wanted.isRest) places ∧
    places.Nodup ∧ (ordered = true → places.Pairwise (· < ·)) := by
  obtain ⟨-, ⟨claims, hclaims, rfl⟩, hordered⟩ := claim_eq_some_iff.mp h
  obtain ⟨hsound, -, hdistinct⟩ := claimEach_sound (nodup_map_fst_indexed file) hclaims
  have hsorted := forall₂_mergeSort_claims hsound
  refine ⟨?_, ?_, hordered⟩
  · rw [List.forall₂_map_right_iff, ← map_snd_indexed query, List.filter_map,
      List.forall₂_map_left_iff]
    refine hsorted.imp fun entry claim hclaim => ?_
    obtain ⟨-, x, hx, haccepts⟩ := hclaim
    exact ⟨x, mem_indexed_iff.mp hx, haccepts⟩
  · exact (((List.mergeSort_perm claims _).map Prod.snd).nodup_iff).mpr hdistinct

end Sequence

end StructuralSearch
