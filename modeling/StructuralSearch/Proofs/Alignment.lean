import Mathlib.Data.List.Forall2
import StructuralSearch.Proofs.SequenceRuns

/-!
# Globs and alignments

A glob goes through the file list from the left, takes one file element for each wanted element and
tries all stretches for a rest wildcard.  What it decides can be said without any search: the file
list can be cut into consecutive pieces, one for each wanted element in order, any piece for a rest
wildcard and a piece of one accepted element for every other one (`Aligned`).

`glob_eq_true_iff` shows that the search misses no such cut and that the refusal of lists of
different lengths is no loss.
-/

namespace StructuralSearch

/-- A list is cut into consecutive pieces, one for each wanted element in order: any piece for
elements that `isRest` singles out, and for every other one a piece of exactly one element that it
takes. -/
inductive Aligned {β α : Type} (isRest : β → Prop) (takes : β → α → Prop) :
    List β → List α → Prop
  | nil : Aligned isRest takes [] []
  | rest {wanted : β} {query : List β} (piece : List α) {file : List α} (hrest : isRest wanted)
      (hlater : Aligned isRest takes query file) :
      Aligned isRest takes (wanted :: query) (piece ++ file)
  | one {wanted : β} {query : List β} {x : α} {file : List α} (hrest : ¬ isRest wanted)
      (htakes : takes wanted x) (hlater : Aligned isRest takes query file) :
      Aligned isRest takes (wanted :: query) (x :: file)

namespace Aligned

variable {β γ α : Type} {isRest : β → Prop} {takes : β → α → Prop}

/-- No wanted element, no piece. -/
theorem nil_iff {file : List α} : Aligned isRest takes [] file ↔ file = [] := by
  constructor
  · intro h
    cases h
    rfl
  · rintro rfl
    exact .nil

/-- A rest wildcard takes any piece at the front. -/
theorem rest_iff (isRest : β → Prop) {wanted : β} {query : List β} {file : List α}
    (hrest : isRest wanted) :
    Aligned isRest takes (wanted :: query) file ↔
      ∃ piece later, file = piece ++ later ∧ Aligned isRest takes query later := by
  constructor
  · intro h
    cases h with
    | rest piece _ hlater => exact ⟨piece, _, rfl, hlater⟩
    | one hnone => exact absurd hrest hnone
  · rintro ⟨piece, later, rfl, hlater⟩
    exact .rest piece hrest hlater

/-- Any other wanted element takes the first element. -/
theorem one_iff (isRest : β → Prop) {wanted : β} {query : List β} {file : List α}
    (hrest : ¬ isRest wanted) :
    Aligned isRest takes (wanted :: query) file ↔
      ∃ x later, file = x :: later ∧ takes wanted x ∧ Aligned isRest takes query later := by
  constructor
  · intro h
    cases h with
    | rest _ hyes => exact absurd hyes hrest
    | one _ htakes hlater => exact ⟨_, _, rfl, htakes, hlater⟩
  · rintro ⟨x, later, rfl, htakes, hlater⟩
    exact .one hrest htakes hlater

/-- Without rest wildcards each wanted element takes the element at its own place. -/
theorem forall₂_iff {query : List β} {file : List α} (hrest : ∀ wanted ∈ query, ¬ isRest wanted) :
    Aligned isRest takes query file ↔ List.Forall₂ takes query file := by
  constructor
  · intro h
    induction h with
    | nil => exact .nil
    | rest _ hyes _ _ => exact absurd hyes (hrest _ List.mem_cons_self)
    | one _ htakes _ ih =>
        exact .cons htakes (ih fun other hother => hrest other (List.mem_cons_of_mem _ hother))
  · intro h
    induction h with
    | nil => exact .nil
    | cons htakes _ ih =>
        exact .one (hrest _ List.mem_cons_self) htakes
          (ih fun other hother => hrest other (List.mem_cons_of_mem _ hother))

/-- A cut is also one for elements that take at least as much. -/
theorem mono {isRest' : β → Prop} {takes' : β → α → Prop} {query : List β} {file : List α}
    (h : Aligned isRest takes query file)
    (hrest : ∀ wanted ∈ query, isRest wanted ↔ isRest' wanted)
    (htakes : ∀ wanted ∈ query, ¬ isRest wanted → ∀ x ∈ file, takes wanted x → takes' wanted x) :
    Aligned isRest' takes' query file := by
  induction h with
  | nil => exact .nil
  | rest piece hyes _ ih =>
      refine .rest piece ((hrest _ List.mem_cons_self).mp hyes) (ih ?_ ?_)
      · exact fun wanted hwanted => hrest wanted (List.mem_cons_of_mem _ hwanted)
      · exact fun wanted hwanted hnone x hx =>
          htakes wanted (List.mem_cons_of_mem _ hwanted) hnone x (List.mem_append_right piece hx)
  | one hnone hfirst _ ih =>
      refine .one (fun hyes => hnone ((hrest _ List.mem_cons_self).mpr hyes))
        (htakes _ List.mem_cons_self hnone _ List.mem_cons_self hfirst) (ih ?_ ?_)
      · exact fun wanted hwanted => hrest wanted (List.mem_cons_of_mem _ hwanted)
      · exact fun wanted hwanted hnone x hx =>
          htakes wanted (List.mem_cons_of_mem _ hwanted) hnone x (List.mem_cons_of_mem _ hx)

/-- Wanted elements that were made from others are aligned as these are. -/
theorem map_iff {f : γ → β} {query : List γ} {file : List α} :
    Aligned isRest takes (query.map f) file ↔
      Aligned (fun wanted => isRest (f wanted)) (fun wanted => takes (f wanted)) query file := by
  induction query generalizing file with
  | nil => rw [List.map_nil, nil_iff, nil_iff]
  | cons wanted query ih =>
      rw [List.map_cons]
      by_cases hrest : isRest (f wanted)
      · rw [rest_iff _ hrest, rest_iff (fun wanted => isRest (f wanted)) hrest]
        simp only [ih]
      · rw [one_iff _ hrest, one_iff (fun wanted => isRest (f wanted)) hrest]
        simp only [ih]

/-- Two cuts side by side are a cut. -/
theorem append {query later : List β} {file rest : List α} (h : Aligned isRest takes query file)
    (hlater : Aligned isRest takes later rest) :
    Aligned isRest takes (query ++ later) (file ++ rest) := by
  induction h with
  | nil => exact hlater
  | rest piece hrest _ ih =>
      rw [List.append_assoc]
      exact .rest piece hrest ih
  | one hrest htakes _ ih => exact .one hrest htakes ih

/-- A list is cut for two groups of elements, one behind the other, exactly if it can be divided so
that the front is cut for the first group and the back for the second. -/
theorem append_iff {query later : List β} {file : List α} :
    Aligned isRest takes (query ++ later) file ↔
      ∃ front back, file = front ++ back ∧ Aligned isRest takes query front ∧
        Aligned isRest takes later back := by
  constructor
  · intro h
    induction query generalizing file with
    | nil => exact ⟨[], file, rfl, .nil, h⟩
    | cons wanted query ih =>
        rw [List.cons_append] at h
        cases h with
        | rest piece hrest hlater =>
            obtain ⟨front, back, rfl, hfront, hback⟩ := ih hlater
            exact ⟨piece ++ front, back, by simp, .rest piece hrest hfront, hback⟩
        | one hrest htakes hlater =>
            obtain ⟨front, back, rfl, hfront, hback⟩ := ih hlater
            exact ⟨_ :: front, back, rfl, .one hrest htakes hfront, hback⟩
  · rintro ⟨front, back, rfl, hfront, hback⟩
    exact hfront.append hback

/-- A list is cut for its own elements, one piece for each, if these take themselves. -/
theorem self {isRest : α → Prop} {takes : α → α → Prop} {items : List α}
    (h : ∀ x ∈ items, ¬ isRest x → takes x x) : Aligned isRest takes items items := by
  induction items with
  | nil => exact .nil
  | cons x items ih =>
      have hlater := ih fun y hy => h y (List.mem_cons_of_mem _ hy)
      by_cases hrest : isRest x
      · exact .rest [x] hrest hlater
      · exact .one hrest (h x List.mem_cons_self hrest) hlater

/-- If each element that is no rest wildcard takes one element, the rest wildcards take none. -/
theorem of_forall₂ {keep : β → Bool} (hkeep : ∀ wanted, keep wanted = true ↔ ¬ isRest wanted)
    {query : List β} {file : List α} (h : List.Forall₂ takes (query.filter keep) file) :
    Aligned isRest takes query file := by
  induction query generalizing file with
  | nil =>
      rw [List.filter_nil, List.forall₂_nil_left_iff] at h
      subst h
      exact .nil
  | cons wanted query ih =>
      by_cases hwanted : keep wanted = true
      · rw [List.filter_cons_of_pos hwanted, List.forall₂_cons_left_iff] at h
        obtain ⟨x, later, htakes, hlater, rfl⟩ := h
        exact .one ((hkeep wanted).mp hwanted) htakes (ih hlater)
      · rw [List.filter_cons_of_neg hwanted] at h
        exact .rest [] (by simpa [hkeep] using hwanted) (ih h)

/-! ### The places of a cut -/

/-- An element stands at this place of the list, and the wanted element takes it. -/
def TakesAt (takes : β → α → Prop) (file : List α) (wanted : β) (place : Nat) : Prop :=
  ∃ x, file[place]? = some x ∧ takes wanted x

/-- Behind a piece at the front all places are moved by its length. -/
theorem forall₂_takesAt_append {query : List β} {places : List Nat} {file : List α}
    (piece : List α) (h : List.Forall₂ (TakesAt takes file) query places) :
    List.Forall₂ (TakesAt takes (piece ++ file)) query (places.map (· + piece.length)) := by
  rw [List.forall₂_map_right_iff]
  refine h.imp fun wanted place htakes => ?_
  obtain ⟨x, hx, hwanted⟩ := htakes
  refine ⟨x, ?_, hwanted⟩
  rw [List.getElem?_append_right (Nat.le_add_left _ _), Nat.add_sub_cancel, hx]

/-- What is taken in a piece at the front of a list is taken in the list. -/
theorem takesAt_append_left {wanted : β} {place : Nat} {piece : List α} (rest : List α)
    (h : TakesAt takes piece wanted place) : TakesAt takes (piece ++ rest) wanted place := by
  obtain ⟨x, hx, hwanted⟩ := h
  refine ⟨x, ?_, hwanted⟩
  rw [List.getElem?_append_left (List.getElem?_eq_some_iff.mp hx).1, hx]

/-- Increasing places still increase when they are moved. -/
theorem pairwise_lt_map_add {places : List Nat} (h : places.Pairwise (· < ·)) (count : Nat) :
    (places.map (· + count)).Pairwise (· < ·) := by
  rw [List.pairwise_map]
  exact h.imp fun hless => Nat.add_lt_add_right hless _

/-- A place at the front is before all places that are moved. -/
theorem pairwise_lt_zero_cons {places : List Nat} (h : places.Pairwise (· < ·)) (count : Nat) :
    (0 :: places.map (· + (count + 1))).Pairwise (· < ·) := by
  refine .cons (fun place hplace => ?_) (pairwise_lt_map_add h _)
  obtain ⟨before, -, rfl⟩ := List.mem_map.mp hplace
  exact Nat.succ_pos _

/-- **The places of a cut.**  The elements that are no rest wildcards take elements at increasing
places.  If the first element is one of them it takes the first element of the list, and the cut may
end with the last element that is taken. -/
theorem exists_trimmed {keep : β → Bool} (hkeep : ∀ wanted, keep wanted = true ↔ ¬ isRest wanted)
    {query : List β} {file : List α} (h : Aligned isRest takes query file) :
    ∃ piece rest, file = piece ++ rest ∧ Aligned isRest takes query piece ∧
      ∃ places, List.Forall₂ (TakesAt takes piece) (query.filter keep) places ∧
        places.Pairwise (· < ·) ∧ (∀ wanted ∈ query.head?, ¬ isRest wanted → 0 ∈ places) ∧
        (piece ≠ [] → piece.length - 1 ∈ places) := by
  induction h with
  | nil => exact ⟨[], [], rfl, .nil, [], .nil, .nil, by simp, by simp⟩
  | @rest wanted query skipped file hrest _ ih =>
      obtain ⟨piece, rest, rfl, haligned, places, htakes, hincreasing, -, hlast⟩ := ih
      have hhead : ∀ places : List Nat, ∀ other ∈ (wanted :: query).head?, ¬ isRest other →
          0 ∈ places := by
        rintro places other hother hnone
        obtain rfl := Option.some.inj hother
        exact absurd hrest hnone
      rw [List.filter_cons_of_neg (by simp [hkeep, hrest])]
      by_cases hpiece : piece = []
      · subst hpiece
        exact ⟨[], skipped ++ rest, rfl, .rest [] hrest haligned, places, htakes, hincreasing,
          hhead places, by simp⟩
      · refine ⟨skipped ++ piece, rest, by simp, .rest skipped hrest haligned,
          places.map (· + skipped.length), forall₂_takesAt_append skipped htakes,
          pairwise_lt_map_add hincreasing _, hhead _, fun _ => ?_⟩
        have hpositive := List.length_pos_of_ne_nil hpiece
        refine List.mem_map.mpr ⟨_, hlast hpiece, ?_⟩
        rw [List.length_append]
        omega
  | @one wanted query x file hrest hfirst _ ih =>
      obtain ⟨piece, rest, rfl, haligned, places, htakes, hincreasing, -, hlast⟩ := ih
      rw [List.filter_cons_of_pos (by simp [hkeep, hrest])]
      refine ⟨x :: piece, rest, rfl, .one hrest hfirst haligned,
        0 :: places.map (· + [x].length), .cons ⟨x, rfl, hfirst⟩ (forall₂_takesAt_append [x] htakes),
        pairwise_lt_zero_cons hincreasing 0, fun _ _ _ => List.mem_cons_self, fun _ => ?_⟩
      by_cases hpiece : piece = []
      · simp [hpiece]
      · have hpositive := List.length_pos_of_ne_nil hpiece
        refine List.mem_cons_of_mem _ (List.mem_map.mpr ⟨_, hlast hpiece, ?_⟩)
        simp only [List.length_cons, List.length_nil]
        omega

/-- Elements at the front that are no rest wildcards take the first elements of the list. -/
theorem exists_places_of_front {keep : β → Bool}
    (hkeep : ∀ wanted, keep wanted = true ↔ ¬ isRest wanted) {front back : List β}
    (hfront : ∀ wanted ∈ front, ¬ isRest wanted) {file : List α}
    (h : Aligned isRest takes (front ++ back) file) :
    ∃ places, List.Forall₂ (TakesAt takes file) (front ++ back.filter keep)
        (List.range front.length ++ places) ∧
      (List.range front.length ++ places).Pairwise (· < ·) := by
  induction front generalizing file with
  | nil =>
      obtain ⟨piece, rest, rfl, -, places, htakes, hincreasing, -, -⟩ := h.exists_trimmed hkeep
      exact ⟨places, htakes.imp fun _ _ => takesAt_append_left rest, hincreasing⟩
  | cons wanted front ih =>
      obtain ⟨x, later, rfl, htakes, hlater⟩ :=
        (one_iff isRest (hfront wanted List.mem_cons_self)).mp h
      obtain ⟨places, hplaces, hincreasing⟩ := ih
        (fun other hother => hfront other (List.mem_cons_of_mem _ hother)) hlater
      have hshift : List.range (wanted :: front).length ++ places.map (· + 1) =
          0 :: (List.range front.length ++ places).map (· + 1) := by
        rw [List.length_cons, List.range_succ_eq_map, List.map_append]
        rfl
      refine ⟨places.map (· + 1), ?_, ?_⟩
      · rw [hshift]
        exact .cons ⟨x, rfl, htakes⟩ (forall₂_takesAt_append [x] hplaces)
      · rw [hshift]
        exact pairwise_lt_zero_cons hincreasing 0

end Aligned

namespace Sequence

variable {α : Type}

/-- A suffix is accepted exactly if the list can be cut so that the back is accepted. -/
theorem someSuffix_eq_true_iff {test : List α → Id Bool} {file : List α} :
    (someSuffix test file).run = true ↔
      ∃ piece later, file = piece ++ later ∧ (test later).run = true := by
  induction file with
  | nil =>
      constructor
      · intro h
        exact ⟨[], [], rfl, h⟩
      · rintro ⟨piece, later, heq, h⟩
        obtain ⟨-, rfl⟩ := List.append_eq_nil_iff.mp heq.symm
        exact h
  | cons x xs ih =>
      have hstep : (someSuffix test (x :: xs)).run =
          ((test (x :: xs)).run || (someSuffix test xs).run) := by
        simp only [someSuffix, Id.run_bind]
        cases (test (x :: xs)).run <;> rfl
      rw [hstep, Bool.or_eq_true, ih]
      constructor
      · rintro (hhere | ⟨piece, later, rfl, h⟩)
        · exact ⟨[], x :: xs, rfl, hhere⟩
        · exact ⟨x :: piece, later, rfl, h⟩
      · rintro ⟨piece, later, heq, h⟩
        rcases List.cons_eq_append_iff.mp heq with ⟨-, rfl⟩ | ⟨piece', rfl, rfl⟩
        · exact Or.inl h
        · exact Or.inr ⟨piece', later, rfl, h⟩

section Globs

variable {query : List (Wanted Id α)} {file : List α}

theorem globFrom_eq_true_iff :
    (globFrom query file).run = true ↔
      Aligned (Wanted.isRest ·) (fun wanted x => (wanted.accepts x).run = true) query file := by
  induction query generalizing file with
  | nil =>
      rw [Aligned.nil_iff]
      exact List.isEmpty_iff
  | cons wanted query ih =>
      by_cases hrest : wanted.isRest = true
      · rw [Aligned.rest_iff (Wanted.isRest ·) hrest, globFrom_rest hrest, someSuffix_eq_true_iff]
        simp only [ih]
      · rw [Aligned.one_iff (Wanted.isRest ·) hrest]
        rw [Bool.not_eq_true] at hrest
        cases file with
        | nil => simp [globFrom_nil hrest]
        | cons x xs =>
            have hstep : (globFrom (wanted :: query) (x :: xs)).run =
                ((wanted.accepts x).run && (globFrom query xs).run) := by
              rw [globFrom_cons hrest, Id.run_bind]
              cases (wanted.accepts x).run <;> rfl
            rw [hstep, Bool.and_eq_true, ih]
            constructor
            · rintro ⟨haccepts, hlater⟩
              exact ⟨x, xs, rfl, haccepts, hlater⟩
            · rintro ⟨_, _, heq, haccepts, hlater⟩
              obtain ⟨rfl, rfl⟩ := List.cons.inj heq
              exact ⟨haccepts, hlater⟩

/-- **Globs find every cut.**  A glob succeeds exactly if the file list can be cut into pieces for
the wanted elements. -/
theorem glob_eq_true_iff :
    (glob query file).run = true ↔
      Aligned (Wanted.isRest ·) (fun wanted x => (wanted.accepts x).run = true) query file := by
  rw [← globFrom_eq_true_iff]
  unfold glob
  split
  · rename_i hlength
    -- Without a rest wildcard the refused lengths admit no cut.
    simp only [Bool.and_eq_true, Bool.not_eq_true', List.any_eq_false, bne_iff_ne] at hlength
    obtain ⟨hrest, hlength⟩ := hlength
    constructor
    · intro h
      cases h
    · intro h
      exact absurd ((Aligned.forall₂_iff hrest).mp (globFrom_eq_true_iff.mp h)).length_eq.symm hlength
  · rfl

end Globs

end Sequence

end StructuralSearch
