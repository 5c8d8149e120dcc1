/-!
# Occurrences of one text in another

Texts are lists of characters here, or lists of anything else that can be compared.  `after?` strips
a leading piece, `afterFirst?` goes on behind the leftmost occurrence of a piece, `replaceAll`
rewrites the occurrences met from left to right, and `splitOnChar` cuts at every separator.
-/

namespace StructuralSearch.Text

variable {α : Type} [DecidableEq α]

/-- What follows `piece` in a text that starts with it. -/
def after? : List α → List α → Option (List α)
  | [], text => some text
  | _ :: _, [] => none
  | c :: piece, d :: text => if c = d then after? piece text else none

/-- A text starts with `piece` exactly when it is `piece` followed by what `after?` returns. -/
theorem after?_eq_some_iff {piece text rest : List α} :
    after? piece text = some rest ↔ text = piece ++ rest := by
  induction piece generalizing text with
  | nil => simp [after?]
  | cons c piece ih =>
    cases text with
    | nil => simp [after?]
    | cons d text =>
      by_cases h : c = d
      · subst h; simp [after?, ih]
      · have h' : ¬ d = c := fun e => h e.symm
        simp [after?, h, h']

/-- What precedes `piece` in a text that ends with it. -/
def before? (piece text : List α) : Option (List α) :=
  (after? piece.reverse text.reverse).map List.reverse

/-- A text ends with `piece` exactly when it is what `before?` returns followed by `piece`. -/
theorem before?_eq_some_iff {piece text rest : List α} :
    before? piece text = some rest ↔ text = rest ++ piece := by
  simp only [before?, Option.map_eq_some_iff, after?_eq_some_iff]
  constructor
  · rintro ⟨flipped, h, rfl⟩
    simpa using congrArg List.reverse h
  · rintro rfl
    exact ⟨rest.reverse, by simp, by simp⟩

/-- What follows the leftmost occurrence of `piece`. -/
def afterFirst? (piece : List α) : List α → Option (List α)
  | [] => after? piece []
  | c :: rest => (after? piece (c :: rest)).or (afterFirst? piece rest)

/-- Whether `piece` occurs in the text. -/
def occursIn (piece text : List α) : Bool :=
  (afterFirst? piece text).isSome

/-- A piece occurs in a text exactly when the text has it between two others. -/
theorem occursIn_iff {piece text : List α} :
    occursIn piece text = true ↔ ∃ front back, text = front ++ piece ++ back := by
  simp only [occursIn]
  induction text with
  | nil =>
    cases piece with
    | nil => simp [afterFirst?, after?]
    | cons => simp [afterFirst?, after?]
  | cons c text ih =>
    simp only [afterFirst?, Option.isSome_or, Bool.or_eq_true, ih]
    constructor
    · rintro (h | ⟨front, back, h⟩)
      · obtain ⟨back, h⟩ := Option.isSome_iff_exists.mp h
        exact ⟨[], back, by simpa using after?_eq_some_iff.mp h⟩
      · exact ⟨c :: front, back, by simp [h]⟩
    · rintro ⟨front, back, h⟩
      cases front with
      | nil =>
        have : after? piece (c :: text) = some back := after?_eq_some_iff.mpr (by simpa using h)
        exact Or.inl (by simp [this])
      | cons _ front =>
        simp only [List.cons_append, List.cons.injEq] at h
        exact Or.inr ⟨front, back, h.2⟩

/-- Replaces the occurrences of a nonempty `token`, each looked for behind the one before it. -/
def replaceToken (token : List α) (nonempty : token ≠ []) (new : List α) : List α → List α
  | [] => []
  | c :: text =>
    match _found : after? token (c :: text) with
    | some rest => new ++ replaceToken token nonempty new rest
    | none => c :: replaceToken token nonempty new text
termination_by text => text.length
decreasing_by
  · have h := congrArg List.length (after?_eq_some_iff.mp _found)
    have := List.length_pos_iff.mpr nonempty
    simp only [List.length_append, List.length_cons] at h ⊢
    omega
  · simp

/-- Replaces every occurrence of `token`.  The empty token occurs around every character. -/
def replaceAll (token new text : List α) : List α :=
  if nonempty : token ≠ [] then replaceToken token nonempty new text
  else new ++ text.flatMap fun c => c :: new

/-- Cuts a text at every `separator`; there is one part more than there are separators. -/
def splitOnChar (separator : Char) : List Char → List (List Char)
  | [] => [[]]
  | c :: text =>
    if c = separator then [] :: splitOnChar separator text
    else
      match splitOnChar separator text with
      | [] => [[c]]
      | part :: parts => (c :: part) :: parts

end StructuralSearch.Text
