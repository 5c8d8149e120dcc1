import Mathlib.Data.List.Infix
import StructuralSearch.Text.Occurrence

/-!
# What replacing leaves

A replacement reads a text from left to right.  Where the token begins it writes the new piece and
goes on behind the token; everywhere else it keeps one element and goes on behind that.
`replacing_induction` is the induction along this reading.

* `not_isInfix_replaceToken`: the token is nowhere left, if no element of the new piece belongs to it;
* `isInfix_of_isInfix_replaceToken`: a replacement makes no other piece either, unless the new piece
  has elements in common with it.
-/

namespace StructuralSearch.Text

variable {α : Type}

/-- A piece that has nothing in common with the front of a text stands behind it. -/
theorem isInfix_of_isInfix_append {piece front back : List α} (hpiece : piece ≠ [])
    (hfresh : ∀ c ∈ piece, c ∉ front) (h : piece <:+: front ++ back) : piece <:+: back := by
  induction front with
  | nil => exact h
  | cons c front ih =>
      rcases List.infix_cons_iff.mp h with hprefix | hlater
      · obtain ⟨first, others, rfl⟩ := List.exists_cons_of_ne_nil hpiece
        obtain ⟨rfl, -⟩ := List.cons_prefix_cons.mp hprefix
        exact absurd List.mem_cons_self (hfresh first List.mem_cons_self)
      · exact ih (fun c hc hmem => hfresh c hc (List.mem_cons_of_mem _ hmem)) hlater

variable [DecidableEq α]

/-- Nothing is stripped where a text does not begin with the piece. -/
theorem after?_eq_none_iff {piece text : List α} : after? piece text = none ↔ ¬ piece <+: text := by
  rw [← not_iff_not, not_not, ← Ne, Option.ne_none_iff_exists']
  simp only [after?_eq_some_iff]
  exact ⟨fun ⟨rest, h⟩ => ⟨rest, h.symm⟩, fun ⟨rest, h⟩ => ⟨rest, h.symm⟩⟩

variable {token new : List α} (nonempty : token ≠ [])

/-- **Reading a text along its tokens.**  What passes from a text to the text with the token in front
of it, and to the text with another element in front where the token does not begin, holds of every
text. -/
theorem replacing_induction {motive : List α → Prop} (nonempty : token ≠ []) (nil : motive [])
    (found : ∀ text, motive text → motive (token ++ text))
    (kept : ∀ c text, ¬ token <+: c :: text → motive text → motive (c :: text))
    (text : List α) : motive text := by
  induction hlength : text.length using Nat.strong_induction_on generalizing text with
  | h length ih =>
      cases text with
      | nil => exact nil
      | cons c text =>
          by_cases hbegins : token <+: c :: text
          · obtain ⟨rest, hrest⟩ := hbegins
            have hpos := List.length_pos_iff.mpr nonempty
            have hsum : token.length + rest.length = length := by
              rw [← hlength, ← hrest, List.length_append]
            rw [← hrest]
            exact found rest (ih rest.length (by omega) rest rfl)
          · refine kept c text hbegins (ih text.length ?_ text rfl)
            rw [← hlength, List.length_cons]
            exact Nat.lt_succ_self _

@[simp] theorem replaceToken_nil : replaceToken token nonempty new [] = [] := by
  rw [replaceToken]

/-- A token in front is replaced. -/
theorem replaceToken_append (text : List α) :
    replaceToken token nonempty new (token ++ text) =
      new ++ replaceToken token nonempty new text := by
  obtain ⟨c, rest, hcons⟩ := List.exists_cons_of_ne_nil nonempty
  have hafter : after? token (c :: (rest ++ text)) = some text :=
    after?_eq_some_iff.mpr (by simp [hcons])
  have hfront : token ++ text = c :: (rest ++ text) := by simp [hcons]
  rw [hfront, replaceToken]
  split
  · rename_i found hfound
    rw [hafter] at hfound
    rw [Option.some.inj hfound]
  · rename_i hnone
    rw [hafter] at hnone
    cases hnone

/-- An element is kept where the token does not begin. -/
theorem replaceToken_cons {c : α} {text : List α} (h : ¬ token <+: c :: text) :
    replaceToken token nonempty new (c :: text) = c :: replaceToken token nonempty new text := by
  rw [replaceToken]
  split
  · rename_i rest hrest
    rw [after?_eq_none_iff.mpr h] at hrest
    cases hrest
  · rfl

/-- A stretch is kept if the token begins nowhere in it. -/
theorem replaceToken_append_of_not_isPrefix {front text : List α}
    (h : ∀ back, back ≠ [] → back <:+ front → ¬ token <+: back ++ text) :
    replaceToken token nonempty new (front ++ text) =
      front ++ replaceToken token nonempty new text := by
  induction front with
  | nil => rfl
  | cons c front ih =>
      have hhere := h (c :: front) (List.cons_ne_nil c front) (List.suffix_refl _)
      have hbehind := ih fun back hback hsuffix =>
        h back hback (hsuffix.trans (List.suffix_cons c front))
      rw [List.cons_append] at hhere ⊢
      rw [replaceToken_cons nonempty hhere, hbehind, List.cons_append]

/-! ### What is left -/

section Fresh

variable {piece : List α} (hnew : new ≠ []) (hfresh : ∀ c ∈ piece, c ∉ new)
include hnew hfresh

/-- A piece that a text begins with behind a replacement was there before, if it has nothing in
common with the new piece. -/
theorem isPrefix_of_isPrefix_replaceToken {text : List α}
    (h : piece <+: replaceToken token nonempty new text) : piece <+: text := by
  induction text using replacing_induction nonempty generalizing piece with
  | nil => rwa [replaceToken_nil] at h
  | found text ih =>
      cases piece with
      | nil => exact List.nil_prefix
      | cons first others =>
          obtain ⟨d, rest, rfl⟩ := List.exists_cons_of_ne_nil hnew
          rw [replaceToken_append, List.cons_append] at h
          obtain ⟨rfl, -⟩ := List.cons_prefix_cons.mp h
          exact absurd List.mem_cons_self (hfresh first List.mem_cons_self)
  | kept c text hbegins ih =>
      cases piece with
      | nil => exact List.nil_prefix
      | cons first others =>
          rw [replaceToken_cons nonempty hbegins] at h
          obtain ⟨rfl, hothers⟩ := List.cons_prefix_cons.mp h
          exact List.cons_prefix_cons.mpr
            ⟨rfl, ih (fun c hc => hfresh c (List.mem_cons_of_mem _ hc)) hothers⟩

/-- **No piece is made.**  A piece that stands in a text behind a replacement was there before, if
it has nothing in common with the new piece. -/
theorem isInfix_of_isInfix_replaceToken {text : List α}
    (h : piece <:+: replaceToken token nonempty new text) : piece <:+: text := by
  by_cases hpiece : piece = []
  · rw [hpiece]
    exact List.nil_infix
  induction text using replacing_induction nonempty with
  | nil => rwa [replaceToken_nil] at h
  | found text ih =>
      rw [replaceToken_append] at h
      exact (ih (isInfix_of_isInfix_append hpiece hfresh h)).trans (List.suffix_append _ _).isInfix
  | kept c text hbegins ih =>
      have hhead : piece <+: replaceToken token nonempty new (c :: text) → piece <+: c :: text :=
        isPrefix_of_isPrefix_replaceToken nonempty hnew hfresh
      rw [replaceToken_cons nonempty hbegins] at h hhead
      rcases List.infix_cons_iff.mp h with hprefix | hlater
      · exact (hhead hprefix).isInfix
      · exact List.infix_cons (ih hlater)

end Fresh

/-- **No token is left.**  Behind a replacement the token stands nowhere, if it has nothing in common
with the new piece. -/
theorem not_isInfix_replaceToken (hnew : new ≠ []) (hfresh : ∀ c ∈ token, c ∉ new)
    (text : List α) : ¬ token <:+: replaceToken token nonempty new text := by
  induction text using replacing_induction nonempty with
  | nil =>
      rw [replaceToken_nil, List.infix_nil]
      exact nonempty
  | found text ih =>
      rw [replaceToken_append]
      exact fun h => ih (isInfix_of_isInfix_append nonempty hfresh h)
  | kept c text hbegins ih =>
      intro h
      have hhead : token <+: replaceToken token nonempty new (c :: text) → token <+: c :: text :=
        isPrefix_of_isPrefix_replaceToken nonempty hnew hfresh
      rw [replaceToken_cons nonempty hbegins] at h hhead
      rcases List.infix_cons_iff.mp h with hprefix | hlater
      · exact hbegins (hhead hprefix)
      · exact ih hlater

/-- A text without the token stays as it is. -/
theorem replaceToken_eq_self {text : List α} (h : ¬ token <:+: text) :
    replaceToken token nonempty new text = text := by
  induction text with
  | nil => exact replaceToken_nil nonempty
  | cons c text ih =>
      have hhere : ¬ token <+: c :: text := fun hprefix => h hprefix.isInfix
      rw [replaceToken_cons nonempty hhere, ih fun hlater => h (List.infix_cons hlater)]

end StructuralSearch.Text
