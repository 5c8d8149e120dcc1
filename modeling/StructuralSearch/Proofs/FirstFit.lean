import Mathlib.Order.Monotone.Basic
import Mathlib.Data.Nat.Basic
import StructuralSearch.Proofs.Claiming

/-!
# First fit

A rest wildcard makes no claim, so what matters for claims are the other elements (`claim_filter`).
Of two of these the more specific one chooses sooner, and of two that are equally specific the one in
front (`Sooner`).  Each takes the first place that it accepts and that no sooner element has taken
(`FirstFit`).

Where the elements have increasing targets in the file, they find places up to these targets, unless
an element that chooses sooner than one in front of it accepts the target of that one
(`exists_claim_le`).
-/

namespace StructuralSearch

namespace Sequence

variable {α β : Type}

/-! ### Without the rest wildcards -/

theorem indexed_cons (item : β) (items : List β) :
    indexed (item :: items) = (0, item) :: (indexed items).map (Prod.map (· + 1) id) := by
  rw [indexed, List.zipIdx_cons']
  simp [indexed, Function.comp_def]

/-- What is left of a numbered list is numbered in the same order. -/
theorem exists_filter_indexed (keep : β → Bool) (items : List β) :
    ∃ number : Nat → Nat, StrictMono number ∧
      ((indexed items).filter fun entry => keep entry.2) =
        (indexed (items.filter keep)).map (Prod.map number id) := by
  induction items with
  | nil => exact ⟨id, strictMono_id, rfl⟩
  | cons item items ih =>
      obtain ⟨number, hnumber, heq⟩ := ih
      have htail : (((indexed items).map (Prod.map (· + 1) id)).filter fun entry => keep entry.2) =
          (indexed (items.filter keep)).map (Prod.map (fun i => number i + 1) id) := by
        rw [List.filter_map]
        simp only [Function.comp_def, Prod.map_snd, id_eq]
        rw [heq, List.map_map]
        rfl
      by_cases hkeep : keep item = true
      · refine ⟨fun i => i.casesOn 0 fun i => number i + 1, ?_, ?_⟩
        · refine strictMono_nat_of_lt_succ fun i => ?_
          cases i with
          | zero => exact Nat.succ_pos _
          | succ i => exact Nat.succ_lt_succ (hnumber (Nat.lt_succ_self i))
        · rw [indexed_cons, List.filter_cons_of_pos (by exact hkeep), htail,
            List.filter_cons_of_pos hkeep, indexed_cons, List.map_cons, List.map_map]
          rfl
      · refine ⟨fun i => number i + 1, fun i j hij => Nat.succ_lt_succ (hnumber hij), ?_⟩
        rw [indexed_cons, List.filter_cons_of_neg (by exact hkeep), htail,
          List.filter_cons_of_neg hkeep]

/-- The numbers are only passed on. -/
theorem claimEach_renumber (number : Nat → Nat) (pending : List (Nat × Wanted Id α))
    (free : List (Nat × α)) :
    (claimEach (pending.map (Prod.map number id)) free).run =
      (claimEach pending free).run.map (List.map (Prod.map number id)) := by
  induction pending generalizing free with
  | nil => rfl
  | cons entry pending ih =>
      obtain ⟨order, wanted⟩ := entry
      rw [List.map_cons, Prod.map_apply, id_eq, claimEach_cons, claimEach_cons]
      cases (takeFirst wanted.accepts free).run with
      | none => rfl
      | some taken =>
          simp only [Option.bind_some, ih, Option.map_map]
          rfl

/-- Rest wildcards make no difference to the claims. -/
theorem claim_filter (ordered : Bool) (query : List (Wanted Id α)) (file : List α) :
    (claim ordered query file).run =
      (claim ordered (query.filter fun wanted => !wanted.isRest) file).run := by
  obtain ⟨number, hnumber, heq⟩ := exists_filter_indexed (fun wanted => !wanted.isRest) query
  have horder : claimOrder query =
      (claimOrder (query.filter fun wanted => !wanted.isRest)).map (Prod.map number id) := by
    have hall : ((indexed (query.filter fun wanted => !wanted.isRest)).filter
        fun entry => !entry.2.isRest) = indexed (query.filter fun wanted => !wanted.isRest) :=
      List.filter_eq_self.mpr fun entry hentry =>
        (List.mem_filter.mp (snd_mem_of_mem_indexed hentry)).2
    rw [claimOrder, claimOrder, hall, heq,
      List.map_mergeSort (s := fun a b => a.2.strength.le b.2.strength) (by intros; rfl)]
  simp only [claim, horder, List.length_map]
  split
  · rfl
  · rw [Id.run_bind, Id.run_bind, claimEach_renumber]
    cases (claimEach (claimOrder (query.filter fun wanted => !wanted.isRest))
        (indexed file)).run with
    | none => rfl
    | some claims =>
        have hsort : ((claims.map (Prod.map number id)).mergeSort fun a b => a.1 ≤ b.1) =
            (claims.mergeSort fun a b => a.1 ≤ b.1).map (Prod.map number id) := by
          rw [List.map_mergeSort (s := fun a b => a.1 ≤ b.1)]
          intro a _ b _
          simp [hnumber.le_iff_le]
        simp only [Option.map_some, hsort, List.map_map]
        rfl

/-! ### Who chooses sooner -/

/-- The element at one place of a query chooses before the one at another: it is more specific, or it
is as specific and stands in front. -/
def Sooner (query : List (Wanted Id α)) (i j : Nat) : Prop :=
  ∃ wanted other, query[i]? = some wanted ∧ query[j]? = some other ∧
    wanted.strength.le other.strength = true ∧
      (i < j ∨ other.strength.le wanted.strength = false)

/-- No two elements choose before each other. -/
theorem Sooner.asymm {query : List (Wanted Id α)} {i j : Nat} (h : Sooner query i j) :
    ¬ Sooner query j i := by
  obtain ⟨wanted, other, hi, hj, hle, hfirst⟩ := h
  rintro ⟨other', wanted', hj', hi', hle', hfirst'⟩
  obtain rfl := Option.some.inj (hi.symm.trans hi')
  obtain rfl := Option.some.inj (hj.symm.trans hj')
  simp only [hle', hle, Bool.true_eq_false, or_false] at hfirst hfirst'
  omega

/-- In a list without repetitions no two elements come before each other. -/
theorem not_sublist_swap {a b : β} {items : List β} (hdistinct : items.Nodup)
    (h : List.Sublist [a, b] items) : ¬ List.Sublist [b, a] items := by
  induction items with
  | nil => cases h
  | cons item items ih =>
      obtain ⟨hfresh, hdistinct⟩ := List.nodup_cons.mp hdistinct
      intro hswap
      rcases List.sublist_cons_iff.mp h with hinner | ⟨_, heq, hinner⟩
      · rcases List.sublist_cons_iff.mp hswap with hswap | ⟨_, heq, hswap⟩
        · exact ih hdistinct hinner hswap
        · obtain ⟨rfl, rfl⟩ := List.cons.inj heq
          exact hfresh (hinner.subset (List.mem_cons_of_mem _ List.mem_cons_self))
      · obtain ⟨rfl, rfl⟩ := List.cons.inj heq
        rcases List.sublist_cons_iff.mp hswap with hswap | ⟨_, heq, hswap⟩
        · exact hfresh (hswap.subset (List.mem_cons_of_mem _ List.mem_cons_self))
        · obtain ⟨rfl, rfl⟩ := List.cons.inj heq
          exact hfresh (hinner.subset List.mem_cons_self)

section Choosing

variable {query : List (Wanted Id α)} (hrest : ∀ wanted ∈ query, wanted.isRest = false)
include hrest

/-- If there are no rest wildcards, all elements choose. -/
theorem claimOrder_eq_mergeSort :
    claimOrder query = (indexed query).mergeSort fun a b => a.2.strength.le b.2.strength := by
  rw [claimOrder, List.filter_eq_self.mpr]
  intro entry hentry
  simp [hrest entry.2 (snd_mem_of_mem_indexed hentry)]

/-- In the order of the choices each element is sooner than those behind it. -/
theorem pairwise_claimOrder : (claimOrder query).Pairwise fun first later =>
    Sooner query first.1 later.1 := by
  rw [claimOrder_eq_mergeSort hrest]
  have htrans : ∀ a b c : Nat × Wanted Id α, a.2.strength.le b.2.strength = true →
      b.2.strength.le c.2.strength = true → a.2.strength.le c.2.strength = true :=
    fun a b c => Strength.le_trans _ _ _
  have htotal : ∀ a b : Nat × Wanted Id α,
      (a.2.strength.le b.2.strength || b.2.strength.le a.2.strength) = true :=
    fun a b => Strength.le_total _ _
  have hnumbers : ((indexed query).mergeSort fun a b => a.2.strength.le b.2.strength).Pairwise
      fun a b => a.1 ≠ b.1 :=
    (List.mergeSort_perm _ _).symm.pairwise ((pairwise_indexed query).imp Nat.ne_of_lt)
      fun h => h.symm
  have hdistinct : ((indexed query).mergeSort
      fun a b => a.2.strength.le b.2.strength).Nodup :=
    hnumbers.imp fun hne heq => hne (congrArg Prod.fst heq)
  rw [List.pairwise_iff_forall_sublist]
  intro first later hsublist
  have hfirst : first ∈ indexed query := List.mem_mergeSort.mp (hsublist.subset (by simp))
  have hlater : later ∈ indexed query := List.mem_mergeSort.mp (hsublist.subset (by simp))
  have hle := List.pairwise_iff_forall_sublist.mp
    (List.pairwise_mergeSort htrans htotal (indexed query)) hsublist
  have hne := List.pairwise_iff_forall_sublist.mp hnumbers hsublist
  refine ⟨first.2, later.2, mem_indexed_iff.mp hfirst, mem_indexed_iff.mp hlater, hle, ?_⟩
  -- Elements that are equally specific keep their order.
  by_contra hnot
  simp only [not_or, Nat.not_lt, Bool.not_eq_false] at hnot
  have hbefore : List.Sublist [later, first] (indexed query) := by
    apply pair_sublist_indexed hlater hfirst
    omega
  exact not_sublist_swap hdistinct hsublist
    (List.pair_sublist_mergeSort htrans htotal hnot.2 hbefore)

/-- Sorted by number, the claims have the numbers of the elements. -/
theorem map_fst_mergeSort_claims {free : List (Nat × α)} {claims : List (Nat × Nat)}
    (h : List.Forall₂ (IsClaim free) (claimOrder query) claims) :
    (claims.mergeSort fun a b => a.1 ≤ b.1).map Prod.fst = List.range query.length := by
  have hall : ((indexed query).filter fun entry => !entry.2.isRest) = indexed query := by
    rw [List.filter_eq_self]
    intro entry hentry
    simp [hrest entry.2 (snd_mem_of_mem_indexed hentry)]
  have hsorted := forall₂_mergeSort_claims h
  rw [hall] at hsorted
  rw [← map_fst_indexed, ← List.forall₂_eq_eq_eq, List.forall₂_map_left_iff,
    List.forall₂_map_right_iff]
  exact (hsorted.imp fun _ _ hclaim => hclaim.1).flip

end Choosing

/-! ### Places by first fit -/

/-- A place in front of a claim whose element was accepted too had been claimed sooner. -/
theorem exists_earlier_claim {pending : List (Nat × Wanted Id α)} {free : List (Nat × α)}
    {claims : List (Nat × Nat)} (hfree : free.Pairwise fun a b => a.1 < b.1)
    (h : (claimEach pending free).run = some claims) {entry : Nat × Wanted Id α}
    {claim : Nat × Nat} (hentry : (entry, claim) ∈ pending.zip claims) {place : Nat} {x : α}
    (hless : place < claim.2) (hx : (place, x) ∈ free) (haccepts : (entry.2.accepts x).run = true) :
    ∃ first, List.Sublist [first, entry] pending ∧ (first.1, place) ∈ claims := by
  induction pending generalizing free claims with
  | nil => cases hentry
  | cons head pending ih =>
      obtain ⟨order, wanted⟩ := head
      rw [claimEach_cons, Option.bind_eq_some_iff] at h
      obtain ⟨⟨taken, left⟩, htaken, h⟩ := h
      obtain ⟨later, hlater, rfl⟩ := Option.map_eq_some_iff.mp h
      obtain ⟨before, y, after, rfl, rfl, -, hbefore⟩ := takeFirst_eq_some htaken
      rw [List.zip_cons_cons] at hentry
      rcases List.mem_cons.mp hentry with heq | hentry
      · obtain ⟨rfl, rfl⟩ := Prod.mk.inj heq
        -- The first element chooses from all free elements and refuses those before its claim.
        rcases List.mem_append.mp hx with hx | hx
        · exact absurd haccepts (by simp [hbefore _ hx])
        · rcases List.mem_cons.mp hx with heq | hx
          · exact absurd (Prod.mk.inj heq).1 (Nat.ne_of_lt hless)
          · have hbehind := List.rel_of_pairwise_cons (List.pairwise_append.mp hfree).2.1 hx
            exact absurd hless (Nat.lt_asymm hbehind)
      · by_cases hplace : place = taken
        · refine ⟨(order, wanted), ?_, by simp [hplace]⟩
          exact (List.singleton_sublist.mpr (List.of_mem_zip hentry).1).cons_cons _
        · have hleft : (place, x) ∈ before ++ after := by
            rcases List.mem_append.mp hx with hx | hx
            · exact List.mem_append_left _ hx
            · refine List.mem_append_right _ ((List.mem_cons.mp hx).resolve_left ?_)
              exact fun heq => hplace (Prod.mk.inj heq).1
          have hsublist : List.Sublist (before ++ after) (before ++ (taken, y) :: after) :=
            (List.sublist_cons_self _ _).append_left before
          obtain ⟨first, hfirst, hclaim⟩ := ih (hfree.sublist hsublist) hlater hentry hleft
          exact ⟨first, hfirst.cons _, List.mem_cons_of_mem _ hclaim⟩

/-- In a list that is numbered from zero the entries are found by their numbers. -/
theorem mem_iff_of_map_fst_eq_range {entries : List (Nat × β)} {count : Nat}
    (h : entries.map Prod.fst = List.range count) {index : Nat} {item : β} :
    (index, item) ∈ entries ↔ (entries.map Prod.snd)[index]? = some item := by
  have hnumber : ∀ {i : Nat} {entry : Nat × β}, entries[i]? = some entry → entry.1 = i := by
    intro i entry hentry
    have hfst : (entries.map Prod.fst)[i]? = some entry.1 := by simp [hentry]
    rw [h] at hfst
    obtain ⟨_, heq⟩ := List.getElem?_eq_some_iff.mp hfst
    rw [← heq, List.getElem_range]
  rw [List.mem_iff_getElem?, List.getElem?_map, Option.map_eq_some_iff]
  constructor
  · rintro ⟨i, hi⟩
    obtain rfl := hnumber hi
    exact ⟨_, hi, rfl⟩
  · rintro ⟨entry, hentry, rfl⟩
    exact ⟨index, by rw [hentry, ← hnumber hentry]⟩

/-- Elements without rest wildcards have places in the file by first fit. -/
structure FirstFit (query : List (Wanted Id α)) (file : List α) (places : List Nat) : Prop where
  /-- each element accepts the element of the file at its place -/
  accepted : List.Forall₂
    (fun wanted place => ∃ x, file[place]? = some x ∧ (wanted.accepts x).run = true) query places
  /-- no place comes twice -/
  distinct : places.Nodup
  /-- a place that an element passes over, although it accepts it, was taken sooner -/
  taken : ∀ {i place earlier : Nat} {wanted : Wanted Id α} {x : α}, query[i]? = some wanted →
    places[i]? = some place → earlier < place → file[earlier]? = some x →
    (wanted.accepts x).run = true → ∃ j, places[j]? = some earlier ∧ Sooner query j i

/-- **Claims are made by first fit.** -/
theorem firstFit_of_claim {ordered : Bool} {query : List (Wanted Id α)} {file : List α}
    {places : List Nat} (hrest : ∀ wanted ∈ query, wanted.isRest = false)
    (h : (claim ordered query file).run = some places) : FirstFit query file places := by
  have hall : (query.filter fun wanted => !wanted.isRest) = query :=
    List.filter_eq_self.mpr fun wanted hwanted => by simp [hrest wanted hwanted]
  obtain ⟨haccepted, hdistinct, -⟩ := claim_sound h
  rw [hall] at haccepted
  refine ⟨haccepted, hdistinct, ?_⟩
  obtain ⟨-, ⟨claims, hclaims, rfl⟩, -⟩ := claim_eq_some_iff.mp h
  obtain ⟨hsound, -, -⟩ := claimEach_sound (nodup_map_fst_indexed file) hclaims
  have hmem : ∀ {i place : Nat}, (i, place) ∈ claims ↔
      ((claims.mergeSort fun a b => a.1 ≤ b.1).map Prod.snd)[i]? = some place := fun {i place} =>
    List.mem_mergeSort.symm.trans
      (mem_iff_of_map_fst_eq_range (map_fst_mergeSort_claims hrest hsound))
  intro i place earlier wanted x hi hplace hless hx haccepts
  obtain ⟨⟨entry, claim⟩, hpair, heq⟩ : ∃ pair ∈ (claimOrder query).zip claims,
      pair.2 = (i, place) := by
    rw [← List.mem_map, List.map_snd_zip (Nat.le_of_eq hsound.length_eq.symm)]
    exact hmem.mpr hplace
  subst heq
  have hentry : entry ∈ indexed query := by
    rw [← List.mem_mergeSort, ← claimOrder_eq_mergeSort hrest]
    exact (List.of_mem_zip hpair).1
  have hnumber : i = entry.1 := (List.forall₂_zip hsound hpair).1
  obtain rfl : entry.2 = wanted := by
    have hget := mem_indexed_iff.mp hentry
    rw [← hnumber, hi] at hget
    exact (Option.some.inj hget).symm
  obtain ⟨first, hfirst, hclaim⟩ := exists_earlier_claim (pairwise_indexed file) hclaims hpair hless
    (mem_indexed_iff.mpr hx) haccepts
  refine ⟨first.1, hmem.mp hclaim, ?_⟩
  rw [hnumber]
  exact List.pairwise_iff_forall_sublist.mp (pairwise_claimOrder hrest) hfirst

/-! ### Reaching targets -/

/-- Where an accepted element is free, a claim is made, and not behind that element. -/
theorem exists_takeFirst_le {accepts : α → Id Bool} {free : List (Nat × α)} {target : Nat} {x : α}
    (hfree : free.Pairwise fun a b => a.1 < b.1) (hmem : (target, x) ∈ free)
    (haccepts : (accepts x).run = true) :
    ∃ place left, (takeFirst accepts free).run = some (place, left) ∧ place ≤ target := by
  induction free with
  | nil => cases hmem
  | cons entry free ih =>
      obtain ⟨index, y⟩ := entry
      rw [takeFirst_cons]
      rcases List.mem_cons.mp hmem with heq | hmem
      · obtain ⟨rfl, rfl⟩ := Prod.mk.inj heq
        exact ⟨target, free, by rw [if_pos haccepts], Nat.le_refl _⟩
      · have hbefore : index < target := List.rel_of_pairwise_cons hfree hmem
        split
        · exact ⟨index, free, rfl, Nat.le_of_lt hbefore⟩
        · obtain ⟨place, left, htaken, hplace⟩ := ih hfree.tail hmem
          exact ⟨place, (index, y) :: left, by rw [htaken]; rfl, hplace⟩

/-- Suppose every element has a target, a free place whose element it accepts.  If each element has
its target in front of those of the elements that choose later, or refuses these, then every element
makes a claim, and not behind its target. -/
theorem exists_claimEach_le (target : Nat → Nat) (pending : List (Nat × Wanted Id α))
    {free : List (Nat × α)} (hfree : free.Pairwise fun a b => a.1 < b.1)
    (htargets : ∀ entry ∈ pending, ∃ x, (target entry.1, x) ∈ free ∧
      (entry.2.accepts x).run = true)
    (hkept : pending.Pairwise fun first later => target first.1 < target later.1 ∨
      ∀ x, (target later.1, x) ∈ free → (first.2.accepts x).run = false) :
    ∃ claims : List (Nat × Nat), (claimEach pending free).run = some claims ∧
      List.Forall₂ (fun entry claim => claim.1 = entry.1 ∧ claim.2 ≤ target entry.1)
        pending claims := by
  induction pending generalizing free with
  | nil => exact ⟨[], rfl, .nil⟩
  | cons entry pending ih =>
      obtain ⟨order, wanted⟩ := entry
      obtain ⟨x, hx, haccepts⟩ : ∃ x, (target order, x) ∈ free ∧ (wanted.accepts x).run = true :=
        htargets _ List.mem_cons_self
      obtain ⟨place, left, htaken, hplace⟩ := exists_takeFirst_le hfree hx haccepts
      obtain ⟨before, y, after, hsplit, rfl, hy, -⟩ := takeFirst_eq_some htaken
      have hsublist : List.Sublist (before ++ after) free :=
        hsplit ▸ (List.sublist_cons_self _ _).append_left before
      -- The claim takes no target away from an element that chooses later.
      have hleft : ∀ later ∈ pending, ∃ z, (target later.1, z) ∈ before ++ after ∧
          (later.2.accepts z).run = true := by
        intro later hlater
        obtain ⟨z, hz, hzaccepts⟩ := htargets later (List.mem_cons_of_mem _ hlater)
        refine ⟨z, ?_, hzaccepts⟩
        have hother : (target later.1, z) ≠ (place, y) := by
          intro heq
          obtain ⟨htarget, rfl⟩ := Prod.mk.inj heq
          rcases List.rel_of_pairwise_cons hkept hlater with hbefore | hrefuses
          · dsimp only at hbefore
            omega
          · exact absurd hy (by simp [hrefuses z hz])
        rw [hsplit] at hz
        rcases List.mem_append.mp hz with hz | hz
        · exact List.mem_append_left _ hz
        · exact List.mem_append_right _ ((List.mem_cons.mp hz).resolve_left hother)
      obtain ⟨claims, hclaims, hle⟩ := ih (hfree.sublist hsublist) hleft
        (hkept.tail.imp fun hor => hor.imp_right fun hrefuses z hz =>
          hrefuses z (hsublist.subset hz))
      refine ⟨(order, place) :: claims, ?_, .cons ⟨rfl, hplace⟩ hle⟩
      rw [claimEach_cons, htaken, Option.bind_some, hclaims]
      rfl

/-- A relation between the elements of two lists may be weakened element by element. -/
theorem forall₂_imp_of_mem {R S : β → α → Prop} {bs : List β} {as : List α}
    (h : List.Forall₂ R bs as) (himp : ∀ b ∈ bs, ∀ a ∈ as, R b a → S b a) :
    List.Forall₂ S bs as := by
  induction h with
  | nil => exact .nil
  | cons hfirst _ ih =>
      exact .cons (himp _ List.mem_cons_self _ List.mem_cons_self hfirst)
        (ih fun b hb a ha => himp b (List.mem_cons_of_mem _ hb) a (List.mem_cons_of_mem _ ha))

/-- What holds of two lists element by element holds at each place. -/
theorem rel_of_forall₂ {R : α → β → Prop} {as : List α} {bs : List β} (h : List.Forall₂ R as bs)
    {i : Nat} {a : α} {b : β} (ha : as[i]? = some a) (hb : bs[i]? = some b) : R a b := by
  obtain ⟨hi, rfl⟩ := List.getElem?_eq_some_iff.mp ha
  obtain ⟨hj, rfl⟩ := List.getElem?_eq_some_iff.mp hb
  exact h.get hi hj

/-- What holds of all pairs of a list holds of the elements at two places. -/
theorem rel_of_pairwise {R : β → β → Prop} {items : List β} (h : items.Pairwise R) {i j : Nat}
    {a b : β} (hij : i < j) (ha : items[i]? = some a) (hb : items[j]? = some b) : R a b := by
  obtain ⟨hi, rfl⟩ := List.getElem?_eq_some_iff.mp ha
  obtain ⟨hj, rfl⟩ := List.getElem?_eq_some_iff.mp hb
  exact List.pairwise_iff_getElem.mp h i j hi hj hij

section Places

variable {R : β → α → Prop} {query : List β} {file : List α} {places : List Nat}
  (h : List.Forall₂ (fun wanted place => ∃ x, file[place]? = some x ∧ R wanted x) query places)
include h

/-- A place where an element is taken is in the file. -/
theorem lt_length_of_mem_places {place : Nat} (hplace : place ∈ places) : place < file.length := by
  obtain ⟨i, hi⟩ := List.mem_iff_getElem?.mp hplace
  have hiplaces : i < places.length := (List.getElem?_eq_some_iff.mp hi).1
  have hiquery : i < query.length := h.length_eq ▸ hiplaces
  obtain ⟨x, hx, -⟩ := rel_of_forall₂ h (List.getElem?_eq_getElem hiquery) hi
  exact (List.getElem?_eq_some_iff.mp hx).1

/-- A file has no fewer elements than there are different places in it. -/
theorem length_le_of_places (hdistinct : places.Nodup) : query.length ≤ file.length := by
  have hsubset : places ⊆ List.range file.length := by
    intro place hplace
    exact List.mem_range.mpr (lt_length_of_mem_places h hplace)
  calc query.length = places.length := h.length_eq
    _ ≤ (List.range file.length).length := List.Nodup.length_le_of_subset hdistinct hsubset
    _ = file.length := List.length_range

end Places

/-- **Claims reach their targets.**  If the elements of a query have different targets in the file,
and none of them accepts a target that is in front of its own and belongs to an element that chooses
later, then each element finds a place that is not behind its target. -/
theorem exists_claim_le {query : List (Wanted Id α)} {file : List α} {targets : List Nat}
    (hrest : ∀ wanted ∈ query, wanted.isRest = false)
    (htargets : List.Forall₂
      (fun wanted place => ∃ x, file[place]? = some x ∧ (wanted.accepts x).run = true)
      query targets)
    (hdistinct : targets.Nodup)
    (hkept : ∀ {i j target other : Nat} {wanted : Wanted Id α} {x : α}, Sooner query i j →
      query[i]? = some wanted → targets[i]? = some target → targets[j]? = some other →
      other < target → file[other]? = some x → (wanted.accepts x).run = false) :
    ∃ places, (claim false query file).run = some places ∧
      List.Forall₂ (· ≤ ·) places targets := by
  let target : Nat → Nat := fun i => targets[i]?.getD 0
  have htarget : ∀ entry ∈ claimOrder query, query[entry.1]? = some entry.2 ∧
      targets[entry.1]? = some (target entry.1) := by
    intro entry hentry
    have hget : query[entry.1]? = some entry.2 := by
      rw [← mem_indexed_iff, ← List.mem_mergeSort, ← claimOrder_eq_mergeSort hrest]
      exact hentry
    obtain ⟨hlength, -⟩ := List.getElem?_eq_some_iff.mp hget
    rw [htargets.length_eq] at hlength
    exact ⟨hget, by simp [target, hlength]⟩
  have hreached : ∀ entry ∈ claimOrder query, ∃ x, (target entry.1, x) ∈ indexed file ∧
      (entry.2.accepts x).run = true := by
    intro entry hentry
    obtain ⟨x, hx, haccepts⟩ :=
      rel_of_forall₂ htargets (htarget entry hentry).1 (htarget entry hentry).2
    exact ⟨x, mem_indexed_iff.mpr hx, haccepts⟩
  have hturns : (claimOrder query).Pairwise fun first later => target first.1 < target later.1 ∨
      ∀ x, (target later.1, x) ∈ indexed file → (first.2.accepts x).run = false := by
    refine (pairwise_claimOrder hrest).imp_of_mem fun {first later} hfirst hlater hsooner => ?_
    have hne : target first.1 ≠ target later.1 := by
      intro heq
      have hi : first.1 < targets.length :=
        (List.getElem?_eq_some_iff.mp (htarget first hfirst).2).1
      have hsame := (List.getElem?_inj hi hdistinct).mp
        ((htarget first hfirst).2.trans (heq ▸ (htarget later hlater).2.symm))
      rw [hsame] at hsooner
      exact hsooner.asymm hsooner
    rcases Nat.lt_or_gt_of_ne hne with hless | hless
    · exact Or.inl hless
    · exact Or.inr fun x hx => hkept hsooner (htarget first hfirst).1 (htarget first hfirst).2
        (htarget later hlater).2 hless (mem_indexed_iff.mp hx)
  obtain ⟨claims, hclaims, hle⟩ :=
    exists_claimEach_le target (claimOrder query) (pairwise_indexed file) hreached hturns
  have hsorted := forall₂_mergeSort hle fun _ _ h => h.1
  rw [claimOrder_eq_mergeSort hrest,
    mergeSort_eq_of_perm (List.mergeSort_perm _ _) (pairwise_indexed query)] at hsorted
  have htargetsEq : targets = (indexed query).map fun entry => target entry.1 := by
    have hmap : (indexed query).map (fun entry => target entry.1) =
        (List.range query.length).map target := by
      rw [← map_fst_indexed, List.map_map]
      rfl
    rw [hmap, htargets.length_eq]
    refine List.ext_getElem (by simp) fun i hi _ => ?_
    simp [target, hi]
  have hfits : (claimOrder query).length ≤ file.length := by
    rw [claimOrder_eq_mergeSort hrest, List.length_mergeSort, length_indexed]
    exact length_le_of_places htargets hdistinct
  refine ⟨_, claim_eq_some_iff.mpr ⟨hfits, ⟨claims, hclaims, rfl⟩, fun h => nomatch h⟩, ?_⟩
  rw [htargetsEq, List.forall₂_map_left_iff, List.forall₂_map_right_iff]
  exact (hsorted.imp fun _ _ h => h.2).flip

/-! ### Claims in order -/

/-- Increasing numbers grow at least as fast as their places. -/
theorem add_sub_le_of_pairwise_lt {places : List Nat} (h : places.Pairwise (· < ·)) {i j p q : Nat}
    (hij : i ≤ j) (hp : places[i]? = some p) (hq : places[j]? = some q) : p + (j - i) ≤ q := by
  induction j generalizing q with
  | zero =>
      obtain rfl := Nat.le_zero.mp hij
      rw [hp] at hq
      obtain rfl := Option.some.inj hq
      exact Nat.le_refl _
  | succ j ih =>
      obtain ⟨hj, hjq⟩ := List.getElem?_eq_some_iff.mp hq
      rcases Nat.lt_or_eq_of_le hij with hless | rfl
      · have hbefore := ih (Nat.le_of_lt_succ hless) (List.getElem?_eq_getElem (by omega))
        have hstep := List.pairwise_iff_getElem.mp h j (j + 1) (by omega) hj (Nat.lt_succ_self j)
        omega
      · rw [hp] at hq
        obtain rfl := Option.some.inj hq
        omega

/-- Of increasing numbers the smaller one comes first. -/
theorem lt_of_pairwise_lt {places : List Nat} (h : places.Pairwise (· < ·)) {i j p q : Nat}
    (hp : places[i]? = some p) (hq : places[j]? = some q) (hless : p < q) : i < j := by
  by_contra hnot
  have hgrow := add_sub_le_of_pairwise_lt h (Nat.not_lt.mp hnot) hq hp
  omega

/-- Increasing numbers are at least as large as their places. -/
theorem le_of_pairwise_lt {places : List Nat} (h : places.Pairwise (· < ·)) {i p : Nat}
    (hp : places[i]? = some p) : i ≤ p := by
  obtain ⟨hi, -⟩ := List.getElem?_eq_some_iff.mp hp
  have hgrow := add_sub_le_of_pairwise_lt h (Nat.zero_le i)
    (List.getElem?_eq_getElem (by omega)) hp
  omega

/-- If increasing numbers hold all numbers up to a bound, these are at their places. -/
theorem getElem?_of_pairwise_lt {places : List Nat} (h : places.Pairwise (· < ·)) {bound : Nat}
    (hall : ∀ number ≤ bound, number ∈ places) : places[bound]? = some bound := by
  induction bound using Nat.strongRecOn with
  | ind bound ih =>
      obtain ⟨i, hi⟩ := List.mem_iff_getElem?.mp (hall bound (Nat.le_refl _))
      rcases Nat.lt_or_eq_of_le (le_of_pairwise_lt h hi) with hless | rfl
      · have hsame := ih i hless fun number hnumber =>
          hall number (Nat.le_trans hnumber (Nat.le_of_lt hless))
        rw [hi] at hsame
        exact absurd (Option.some.inj hsame) (Nat.ne_of_gt hless)
      · exact hi

namespace FirstFit

variable {query : List (Wanted Id α)} {file : List α} {places : List Nat}

/-- Elements with the same place are the same. -/
theorem place_inj (hfit : FirstFit query file places) {i j place : Nat}
    (hi : places[i]? = some place) (hj : places[j]? = some place) : i = j :=
  (List.getElem?_inj (List.getElem?_eq_some_iff.mp hi).1 hfit.distinct).mp (hi.trans hj.symm)

/-- **Claims that come out in order.**  Suppose the elements at the front are to take the first
places, and no claim is behind its target.  If of the other elements each chooses sooner than those
behind it and accepts what they accept, the places increase. -/
theorem increasing_of_front (hfit : FirstFit query file places) {count : Nat} {tail : List Nat}
    (hle : List.Forall₂ (· ≤ ·) places (List.range count ++ tail))
    (hback : ∀ {i j : Nat} {wanted other : Wanted Id α}, count ≤ i → i < j →
      query[i]? = some wanted → query[j]? = some other →
      wanted.strength.le other.strength = true ∧
        ∀ x ∈ file, (other.accepts x).run = true → (wanted.accepts x).run = true) :
    places.Pairwise (· < ·) := by
  have hlength : places.length = count + tail.length := by simpa using hle.length_eq
  have hfront : ∀ i, i < count → places[i]? = some i := by
    intro i
    induction i using Nat.strongRecOn with
    | ind i ih =>
        intro hi
        have hplace : places[i]? = some places[i] := List.getElem?_eq_getElem (by omega)
        have htarget : (List.range count ++ tail)[i]? = some i := by
          rw [List.getElem?_append_left (by simpa using hi), List.getElem?_range hi]
        have hbound : places[i] ≤ i := rel_of_forall₂ hle hplace htarget
        rcases Nat.lt_or_eq_of_le hbound with hless | heq
        · have hsame := hfit.place_inj hplace (ih places[i] hless (by omega))
          omega
        · rw [hplace, heq]
  rw [List.pairwise_iff_getElem]
  intro i j hi hj hij
  have hiplace : places[i]? = some places[i] := List.getElem?_eq_getElem hi
  have hjplace : places[j]? = some places[j] := List.getElem?_eq_getElem hj
  have hbeyond : ∀ k (hk : k < places.length), count ≤ k → count ≤ places[k] := by
    intro k hk hcount
    by_contra hnot
    have hsame := hfit.place_inj (List.getElem?_eq_getElem hk) (hfront places[k] (by omega))
    omega
  by_cases hicount : i < count
  · have hsame : places[i] = i := Option.some.inj (hiplace.symm.trans (hfront i hicount))
    by_cases hjcount : j < count
    · have hother : places[j] = j := Option.some.inj (hjplace.symm.trans (hfront j hjcount))
      omega
    · have := hbeyond j hj (by omega)
      omega
  · -- The sooner element would have taken the place in front, had it accepted it.
    by_contra hnot
    have hne : places[i] ≠ places[j] := fun heq => by
      have := hfit.place_inj hiplace (heq ▸ hjplace)
      omega
    have hiquery : i < query.length := hfit.accepted.length_eq ▸ hi
    have hjquery : j < query.length := hfit.accepted.length_eq ▸ hj
    have hwanted : query[i]? = some query[i] := List.getElem?_eq_getElem hiquery
    have hother : query[j]? = some query[j] := List.getElem?_eq_getElem hjquery
    obtain ⟨hsooner, haccepts⟩ := hback (by omega) hij hwanted hother
    obtain ⟨x, hx, hjaccepts⟩ := rel_of_forall₂ hfit.accepted hother hjplace
    obtain ⟨k, hk, hksooner⟩ := hfit.taken hwanted hiplace (by omega) hx
      (haccepts x (List.mem_of_getElem? hx) hjaccepts)
    obtain rfl := hfit.place_inj hk hjplace
    exact hksooner.asymm ⟨_, _, hwanted, hother, hsooner, Or.inl hij⟩

/-- If the places increase in a file without elements to spare, each element has its own place. -/
theorem getElem?_of_length_eq (hfit : FirstFit query file places)
    (hincreasing : places.Pairwise (· < ·)) (hlength : file.length = query.length) {i : Nat}
    (hi : i < query.length) : places[i]? = some i := by
  have hcount : places.length = query.length := hfit.accepted.length_eq.symm
  have hplace : places[i]? = some places[i] := List.getElem?_eq_getElem (by omega)
  have hlast : places[query.length - 1]? = some places[query.length - 1] :=
    List.getElem?_eq_getElem (by omega)
  have hbound := lt_length_of_mem_places hfit.accepted (List.mem_of_getElem? hlast)
  have hgrow := add_sub_le_of_pairwise_lt hincreasing (by omega) hplace hlast
  have hlow := le_of_pairwise_lt hincreasing hplace
  rw [hplace]
  congr 1
  omega

/-- If the places increase in a file without elements to spare, an element refuses what one in front
of it has got that chooses later. -/
theorem refuses_of_length_eq (hfit : FirstFit query file places)
    (hincreasing : places.Pairwise (· < ·)) (hlength : file.length = query.length) {i j : Nat}
    (hij : i < j) (hsooner : Sooner query j i) {other : Wanted Id α} {x : α}
    (hother : query[j]? = some other) (hx : file[i]? = some x) : (other.accepts x).run = false := by
  have hj := (List.getElem?_eq_some_iff.mp hother).1
  by_contra haccepts
  rw [Bool.not_eq_false] at haccepts
  obtain ⟨k, hk, hksooner⟩ := hfit.taken hother
    (hfit.getElem?_of_length_eq hincreasing hlength hj) hij hx haccepts
  obtain rfl := hfit.place_inj hk
    (hfit.getElem?_of_length_eq hincreasing hlength (Nat.lt_trans hij hj))
  exact hksooner.asymm hsooner

/-- Suppose the places increase, the elements at the front accept the first elements of the file, and
an element that is sooner than one of these refuses what it accepts.  If an element accepts all that
follows up to some place in front of its own, then the element with the number of that place has it,
chooses sooner and accepts it too. -/
theorem sooner_of_piece (hfit : FirstFit query file places)
    (hincreasing : places.Pairwise (· < ·)) {count last j : Nat} {other : Wanted Id α}
    (hfront : ∀ i < count, ∃ wanted x, query[i]? = some wanted ∧ file[i]? = some x ∧
      (wanted.accepts x).run = true ∧ ∀ k rival, i < k → Sooner query k i →
        query[k]? = some rival → (rival.accepts x).run = false)
    (hother : query[j]? = some other) (hcount : count ≤ last) (hlast : last < j)
    (hpiece : ∀ i, count ≤ i → i ≤ last → ∃ x, file[i]? = some x ∧ (other.accepts x).run = true) :
    Sooner query last j ∧ ∃ wanted x, query[last]? = some wanted ∧ file[last]? = some x ∧
      (wanted.accepts x).run = true := by
  have hlength := hfit.accepted.length_eq
  have hj := (List.getElem?_eq_some_iff.mp hother).1
  have hfirst : ∀ i, i < count → places[i]? = some i := by
    intro i
    induction i using Nat.strongRecOn with
    | ind i ih =>
        intro hi
        have hplace : places[i]? = some places[i] := List.getElem?_eq_getElem (by omega)
        obtain ⟨wanted, x, hwanted, hx, haccepts, hrefuse⟩ := hfront i hi
        rcases Nat.lt_or_eq_of_le (le_of_pairwise_lt hincreasing hplace) with hless | heq
        · -- Whoever has taken this place refuses it or stands in front and has its own place.
          obtain ⟨k, hk, hsooner⟩ := hfit.taken hwanted hplace hless hx haccepts
          rcases Nat.lt_trichotomy k i with hki | rfl | hki
          · have hsame := ih k hki (by omega)
            rw [hk] at hsame
            exact absurd (Option.some.inj hsame) (by omega)
          · exact hk
          · have hkquery : k < query.length :=
              hlength ▸ (List.getElem?_eq_some_iff.mp hk).1
            obtain ⟨y, hy, hyaccepts⟩ :=
              rel_of_forall₂ hfit.accepted (List.getElem?_eq_getElem hkquery) hk
            rw [hx] at hy
            obtain rfl := Option.some.inj hy
            have hrefuses := hrefuse k _ hki hsooner (List.getElem?_eq_getElem hkquery)
            exact absurd hyaccepts (by simp [hrefuses])
        · rw [hplace, ← heq]
  have hjplace : places[j]? = some places[j] := List.getElem?_eq_getElem (by omega)
  have hbehind := le_of_pairwise_lt hincreasing hjplace
  have htaken : ∀ i, count ≤ i → i ≤ last → ∃ k, places[k]? = some i ∧ Sooner query k j := by
    intro i hi hilast
    obtain ⟨x, hx, haccepts⟩ := hpiece i hi hilast
    exact hfit.taken hother hjplace (by omega) hx haccepts
  have hself : places[last]? = some last := by
    refine getElem?_of_pairwise_lt hincreasing fun i hi => ?_
    by_cases hicount : i < count
    · exact List.mem_of_getElem? (hfirst i hicount)
    · obtain ⟨k, hk, -⟩ := htaken i (by omega) hi
      exact List.mem_of_getElem? hk
  obtain ⟨k, hk, hsooner⟩ := htaken last hcount (Nat.le_refl _)
  obtain rfl := hfit.place_inj hk hself
  have hwanted : query[k]? = some query[k] := List.getElem?_eq_getElem (by omega)
  obtain ⟨x, hx, haccepts⟩ := rel_of_forall₂ hfit.accepted hwanted hk
  exact ⟨hsooner, _, x, hwanted, hx, haccepts⟩

end FirstFit

end Sequence

end StructuralSearch
