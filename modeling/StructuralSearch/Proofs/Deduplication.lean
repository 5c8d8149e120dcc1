import Mathlib.Data.List.Nodup
import Mathlib.Data.List.Sort
import StructuralSearch.Search.Dedup

/-!
# What deduplication keeps

Of the matches of one file the first one of each range is kept, and what is kept is ordered by its
range.  So the ranges of the result are those of the matches, each of them once
(`mem_map_range_dedup`, `nodup_map_range_dedup`), and the order of the result is strict.

A list in strict order is known from its elements, and the elements of the result are the first
matches of their ranges (`Match.IsFirstIn`).  This determines the result (`eq_dedup_iff_isDedup`), and
lists with the same first matches are deduplicated to the same result.

Where the range of a match says everything about it (`ToldByRange`), it does not matter which match
of a range comes first: the result is known from the set of the matches alone
(`dedup_eq_of_mem_iff`).
-/

namespace StructuralSearch

/-! ### The first match of each range -/

/-- A match of a list is the first one of its range. -/
def Match.IsFirstIn (found : Match) (matching : List Match) : Prop :=
  ∃ before after, matching = before ++ found :: after ∧ found.range ∉ before.map Match.range

theorem Match.not_isFirstIn_nil (found : Match) : ¬ found.IsFirstIn [] := by
  intro h
  obtain ⟨before, after, heq, -⟩ := h
  simp at heq

theorem Match.isFirstIn_cons_iff {found head : Match} {matching : List Match} :
    found.IsFirstIn (head :: matching) ↔
      found = head ∨ found.range ≠ head.range ∧ found.IsFirstIn matching := by
  constructor
  · intro h
    obtain ⟨before, after, heq, hfresh⟩ := h
    cases before with
    | nil => exact Or.inl (List.cons.inj heq).1.symm
    | cons other before =>
        obtain ⟨rfl, rfl⟩ := List.cons.inj heq
        rw [List.map_cons, List.mem_cons, not_or] at hfresh
        exact Or.inr ⟨hfresh.1, before, after, rfl, hfresh.2⟩
  · intro h
    rcases h with rfl | ⟨hne, before, after, rfl, hfresh⟩
    · exact ⟨[], matching, rfl, List.not_mem_nil⟩
    · refine ⟨head :: before, after, rfl, ?_⟩
      rw [List.map_cons, List.mem_cons, not_or]
      exact ⟨hne, hfresh⟩

/-- In a list with another one behind it, the first matches of ranges are those of the front, and
those of the back whose ranges do not occur in the front. -/
theorem Match.isFirstIn_append_iff {found : Match} {matching others : List Match} :
    found.IsFirstIn (matching ++ others) ↔
      found.IsFirstIn matching ∨
        found.range ∉ matching.map Match.range ∧ found.IsFirstIn others := by
  induction matching with
  | nil => simp [not_isFirstIn_nil]
  | cons head matching ih =>
      rw [List.cons_append, isFirstIn_cons_iff, isFirstIn_cons_iff, ih, List.map_cons,
        List.mem_cons]
      grind

/-- If no range comes twice, every match is the first one of its range. -/
theorem Match.isFirstIn_iff_mem {found : Match} {matching : List Match}
    (hdistinct : (matching.map Match.range).Nodup) :
    found.IsFirstIn matching ↔ found ∈ matching := by
  induction matching with
  | nil => simp [not_isFirstIn_nil]
  | cons head matching ih =>
      obtain ⟨hfresh, hdistinct⟩ := List.nodup_cons.mp hdistinct
      rw [isFirstIn_cons_iff, ih hdistinct, List.mem_cons]
      grind

/-- The matches whose ranges are new are the first ones of the ranges that are new. -/
theorem mem_firstOfEachRange_iff {seen : List (Nat × Nat)} {matching : List Match}
    {found : Match} :
    found ∈ firstOfEachRange seen matching ↔ found.range ∉ seen ∧ found.IsFirstIn matching := by
  induction matching generalizing seen with
  | nil => simp [firstOfEachRange, Match.not_isFirstIn_nil]
  | cons head matching ih =>
      rw [firstOfEachRange, Match.isFirstIn_cons_iff]
      split
      · rw [ih]
        grind
      · rw [List.mem_cons, ih]
        grind

/-- Each range of a list has a first match. -/
theorem Match.exists_isFirstIn {found : Match} {matching : List Match} (h : found ∈ matching) :
    ∃ first : Match, first.IsFirstIn matching ∧ first.range = found.range := by
  induction matching with
  | nil => cases h
  | cons head matching ih =>
      by_cases hrange : head.range = found.range
      · exact ⟨head, isFirstIn_cons_iff.mpr (Or.inl rfl), hrange⟩
      · have hne : found ≠ head := fun heq => hrange (heq ▸ rfl)
        obtain ⟨first, hfirst, heq⟩ := ih ((List.mem_cons.mp h).resolve_left hne)
        refine ⟨first, isFirstIn_cons_iff.mpr (Or.inr ⟨?_, hfirst⟩), heq⟩
        rw [heq]
        exact Ne.symm hrange

/-- Deduplication keeps the first match of each range and nothing else. -/
theorem mem_dedup_iff_isFirstIn {matching : List Match} {found : Match} :
    found ∈ dedup matching ↔ found.IsFirstIn matching := by
  rw [dedup, List.mem_mergeSort, mem_firstOfEachRange_iff]
  simp

/-- No range is lost. -/
theorem mem_map_range_dedup {matching : List Match} {range : Nat × Nat} :
    range ∈ (dedup matching).map Match.range ↔ range ∈ matching.map Match.range := by
  constructor
  · intro h
    exact List.map_subset _ (dedup_subset matching) h
  · intro h
    obtain ⟨found, hfound, rfl⟩ := List.mem_map.mp h
    obtain ⟨first, hfirst, heq⟩ := Match.exists_isFirstIn hfound
    exact List.mem_map.mpr ⟨first, mem_dedup_iff_isFirstIn.mpr hfirst, heq⟩

/-- No range is kept twice. -/
theorem nodup_map_range_firstOfEachRange (seen : List (Nat × Nat)) (matching : List Match) :
    ((firstOfEachRange seen matching).map Match.range).Nodup := by
  induction matching generalizing seen with
  | nil => exact List.nodup_nil
  | cons found matching ih =>
      rw [firstOfEachRange]
      by_cases hseen : found.range ∈ seen
      · rw [if_pos hseen]
        exact ih seen
      · rw [if_neg hseen, List.map_cons, List.nodup_cons]
        refine ⟨fun hlater => ?_, ih _⟩
        obtain ⟨later, hmem, heq⟩ := List.mem_map.mp hlater
        have hnew := (mem_firstOfEachRange_iff.mp hmem).1
        exact hnew (heq ▸ List.mem_cons_self)

/-- Neither is one when the matches are ordered. -/
theorem nodup_map_range_dedup (matching : List Match) :
    ((dedup matching).map Match.range).Nodup := by
  have hperm := (List.mergeSort_perm (firstOfEachRange [] matching) Match.precedes).map Match.range
  exact hperm.nodup_iff.mpr (nodup_map_range_firstOfEachRange [] matching)

/-! ### The order of matches -/

theorem Match.precedes_iff {a b : Match} :
    a.precedes b = true ↔ a.start.offset < b.start.offset ∨
      (a.start.offset = b.start.offset ∧ b.stop.offset ≤ a.stop.offset) := by
  simp [precedes]

theorem Match.precedes_trans {a b c : Match} (hab : a.precedes b = true)
    (hbc : b.precedes c = true) : a.precedes c = true := by
  rw [precedes_iff] at *
  omega

theorem Match.precedes_total (a b : Match) : (a.precedes b || b.precedes a) = true := by
  rw [Bool.or_eq_true, precedes_iff, precedes_iff]
  omega

/-- The result is in order. -/
theorem pairwise_dedup (matching : List Match) :
    (dedup matching).Pairwise fun a b => a.precedes b = true := by
  refine List.pairwise_mergeSort ?_ Match.precedes_total (firstOfEachRange [] matching)
  intro a b c hab hbc
  exact Match.precedes_trans hab hbc

/-- A match stands before another one: it starts earlier, or at the same place and ends later. -/
def Match.StandsBefore (a b : Match) : Prop :=
  a.start.offset < b.start.offset ∨
    (a.start.offset = b.start.offset ∧ b.stop.offset < a.stop.offset)

instance : Std.Irrefl Match.StandsBefore where
  irrefl a h := by
    unfold Match.StandsBefore at h
    omega

instance : Std.Antisymm Match.StandsBefore where
  antisymm a b hab hba := by
    unfold Match.StandsBefore at hab hba
    omega

/-- The result is in strict order, since no range is kept twice. -/
theorem pairwise_standsBefore_dedup (matching : List Match) :
    (dedup matching).Pairwise Match.StandsBefore := by
  have hranges := List.pairwise_map.mp (nodup_map_range_dedup matching)
  refine ((pairwise_dedup matching).and hranges).imp fun {a b} h => ?_
  obtain ⟨hprecedes, hne⟩ := h
  rw [Match.precedes_iff] at hprecedes
  have hranges : ¬ (a.start.offset = b.start.offset ∧ a.stop.offset = b.stop.offset) := by
    intro hsame
    exact hne (Prod.ext hsame.1 hsame.2)
  unfold Match.StandsBefore
  omega

/-! ### The set of the matches -/

/-- Matches are told by their ranges: no two different ones have the same range. -/
def ToldByRange (matching : List Match) : Prop :=
  ∀ a ∈ matching, ∀ b ∈ matching, a.range = b.range → a = b

/-- Matches that are told by their ranges are all kept. -/
theorem mem_dedup_iff {matching : List Match} (htold : ToldByRange matching) {found : Match} :
    found ∈ dedup matching ↔ found ∈ matching := by
  constructor
  · intro h
    exact dedup_subset matching h
  · intro h
    have hrange : found.range ∈ (dedup matching).map Match.range :=
      mem_map_range_dedup.mpr (List.mem_map_of_mem h)
    obtain ⟨kept, hkept, heq⟩ := List.mem_map.mp hrange
    obtain rfl := htold kept (dedup_subset matching hkept) found h heq
    exact hkept

/-- **Deduplication forgets order and repetition.**  Matches that are told by their ranges are
deduplicated to the same result, in whatever order they come and however often. -/
theorem dedup_eq_of_mem_iff {matching others : List Match} (htold : ToldByRange matching)
    (hsame : ∀ found, found ∈ matching ↔ found ∈ others) : dedup matching = dedup others := by
  have hothers : ToldByRange others := fun a ha b hb =>
    htold a ((hsame a).mpr ha) b ((hsame b).mpr hb)
  have hmem : ∀ found, found ∈ dedup matching ↔ found ∈ dedup others := by
    intro found
    rw [mem_dedup_iff htold, mem_dedup_iff hothers, hsame]
  exact (pairwise_standsBefore_dedup matching).eq_of_mem_iff (pairwise_standsBefore_dedup others) hmem

/-! ### What deduplication is -/

/-- A list holds for each range of the matches the first match with this range and nothing else, and
it is in strict order. -/
structure IsDedup (matching result : List Match) : Prop where
  complete : ∀ found ∈ matching, ∃ first ∈ result, first.range = found.range
  firsts : ∀ found, found ∈ result ↔ found.IsFirstIn matching
  ordered : result.Pairwise Match.StandsBefore

theorem isDedup_dedup (matching : List Match) : IsDedup matching (dedup matching) where
  complete found hfound := by
    have hrange : found.range ∈ (dedup matching).map Match.range :=
      mem_map_range_dedup.mpr (List.mem_map_of_mem hfound)
    exact List.mem_map.mp hrange
  firsts found := mem_dedup_iff_isFirstIn
  ordered := pairwise_standsBefore_dedup matching

/-- There is no other such list. -/
theorem IsDedup.eq_dedup {matching result : List Match} (h : IsDedup matching result) :
    result = dedup matching :=
  h.ordered.eq_of_mem_iff (pairwise_standsBefore_dedup matching) fun found =>
    (h.firsts found).trans mem_dedup_iff_isFirstIn.symm

/-- Lists with the same first matches are deduplicated to the same result. -/
theorem dedup_eq_of_isFirstIn_iff {matching others : List Match}
    (h : ∀ found : Match, found.IsFirstIn matching ↔ found.IsFirstIn others) :
    dedup matching = dedup others := by
  refine (pairwise_standsBefore_dedup matching).eq_of_mem_iff (pairwise_standsBefore_dedup others)
    fun found => ?_
  rw [mem_dedup_iff_isFirstIn, mem_dedup_iff_isFirstIn, h]

/-- What is in front may be deduplicated before the rest comes. -/
theorem dedup_dedup_append (matching others : List Match) :
    dedup (dedup matching ++ others) = dedup (matching ++ others) := by
  refine dedup_eq_of_isFirstIn_iff fun found => ?_
  rw [Match.isFirstIn_append_iff, Match.isFirstIn_append_iff, mem_map_range_dedup,
    Match.isFirstIn_iff_mem (nodup_map_range_dedup matching), mem_dedup_iff_isFirstIn]

/-- A match covers all bytes that another one covers. -/
def Match.Encloses (outer inner : Match) : Prop :=
  outer.start.offset ≤ inner.start.offset ∧ inner.stop.offset ≤ outer.stop.offset

/-- Of two places in the result, the one of the enclosing match comes first. -/
theorem lt_of_encloses {matching : List Match} {i j : Nat} (hi : i < (dedup matching).length)
    (hj : j < (dedup matching).length) (hne : i ≠ j)
    (h : (dedup matching)[i].Encloses (dedup matching)[j]) : i < j := by
  by_contra hless
  have hbefore := List.pairwise_iff_getElem.mp (pairwise_standsBefore_dedup matching) j i hj hi
    (by omega)
  unfold Match.Encloses at h
  unfold Match.StandsBefore at hbefore
  omega

/-- **Deduplication is determined.**  The result is the only list that holds the first match of each
range and nothing else in strict order.  So deduplicating it once more changes nothing, also when
other matches follow it, and an enclosing match precedes the other matches that are nested in it. -/
theorem eq_dedup_iff_isDedup (matching : List Match) :
    (∀ result, result = dedup matching ↔ IsDedup matching result) ∧
    dedup (dedup matching) = dedup matching ∧
    (∀ i j (hi : i < (dedup matching).length) (hj : j < (dedup matching).length), i ≠ j →
      (dedup matching)[i].Encloses (dedup matching)[j] → i < j) ∧
    ∀ others, dedup (dedup matching ++ others) = dedup (matching ++ others) := by
  refine ⟨?_, ?_, ?_, dedup_dedup_append matching⟩
  · intro result
    constructor
    · intro h
      rw [h]
      exact isDedup_dedup matching
    · exact IsDedup.eq_dedup
  · have h := dedup_dedup_append matching []
    rwa [List.append_nil, List.append_nil] at h
  · intro i j hi hj hne h
    exact lt_of_encloses hi hj hne h

/-- A match of the bytes from `start` to `stop`. -/
def Match.ofBytes (start stop : Nat) (code : String) : Match :=
  ⟨"a.ts", ⟨1, start + 1, start⟩, ⟨1, stop + 1, stop⟩, code⟩

/-- Of two matches of one range the first is kept, and an outer match comes before those in it. -/
example :
    dedup [.ofBytes 4 6 "inner", .ofBytes 0 9 "outer", .ofBytes 0 3 "head", .ofBytes 0 9 "again"] =
      [.ofBytes 0 9 "outer", .ofBytes 0 3 "head", .ofBytes 4 6 "inner"] := by cbv

end StructuralSearch
