import StructuralSearch.Proofs.FragmentPatterns

/-!
# Patterns in lower case

When case is ignored, pattern and text are lower-cased before the one is laid over the other.  All
characters but one are lower-cased on their own.  The exception is `Σ`, which becomes `ς` or `σ` by
what stands around it, and this need not be the same in a pattern and in a text that it describes: what
a `Σ` meets in the pattern may be a `$`, which is no letter, and in the text it is what the `$` covers.

A `Σ` is settled in its pattern (`SettledSigma`) if what a `$` covers can make no difference to it.
Patterns of settled `Σ` are the ones that still describe in lower case what they described before
(`lowercase_keeps_matches_iff`).  That they do is shown along the pattern, with what stands before the
two rests as a context.  For the converse all `$` are filled with one and the same gap; if the filled
text is described in lower case, it has no `σ` less than the pattern with the gap `" a"`, and no `ς` less
with the gap `"a "`.
-/

namespace StructuralSearch

open Text

/-- Whether the first character that is not case-ignorable is a `$`. -/
def facesWildcard (text : List Char) : Bool :=
  (text.dropWhile caseIgnorableTable.holds).head? == some '$'

/-- What a `$` covers makes no difference to a `Σ` between what stands before it, nearest first, and
after it.  With a `$` before it, no matter which letters this covers, the `Σ` ends no word, since one
goes on behind it.  With a `$` after it there is no word that it could end. -/
structure SettledSigma (before after : List Char) : Prop where
  front : facesWildcard before = true → startsCased after = true
  back : facesWildcard after = true → startsCased before = false

instance (before after : List Char) : Decidable (SettledSigma before after) :=
  decidable_of_iff ((facesWildcard before = true → startsCased after = true) ∧
      (facesWildcard after = true → startsCased before = false))
    ⟨fun h => ⟨h.1, h.2⟩, fun h => ⟨h.front, h.back⟩⟩

/-- Something holds of what stands before, nearest first, and after each `Σ` of a text that stands
behind `before`. -/
def EachSigma (holds : List Char → List Char → Prop) (before : List Char) : List Char → Prop
  | [] => True
  | c :: text => (c = 'Σ' → holds before text) ∧ EachSigma holds (c :: before) text

instance EachSigma.decidable {holds : List Char → List Char → Prop}
    [∀ before after, Decidable (holds before after)] :
    (before text : List Char) → Decidable (EachSigma holds before text)
  | _, [] => inferInstanceAs (Decidable True)
  | before, c :: text =>
      @instDecidableAnd _ _ _ (EachSigma.decidable (c :: before) text)

/-- Every `Σ` of a text is settled. -/
abbrev Settled (text : List Char) : Prop :=
  EachSigma SettledSigma [] text

/-- What follows at each `Σ` holds at each of them. -/
theorem EachSigma.mono {holds goal : List Char → List Char → Prop}
    (himp : ∀ before after, holds before after → goal before after) {before text : List Char}
    (h : EachSigma holds before text) : EachSigma goal before text := by
  induction text generalizing before with
  | nil => trivial
  | cons c text ih => exact ⟨fun hc => himp _ _ (h.1 hc), ih h.2⟩

/-- Two things that hold at each `Σ` hold there together. -/
theorem EachSigma.and {holds holds' : List Char → List Char → Prop} {before text : List Char}
    (h : EachSigma holds before text) (h' : EachSigma holds' before text) :
    EachSigma (fun before after => holds before after ∧ holds' before after) before text := by
  induction text generalizing before with
  | nil => trivial
  | cons c text ih => exact ⟨fun hc => ⟨h.1 hc, h'.1 hc⟩, ih h.2 h'.2⟩

/-- A text without `Σ` is settled. -/
theorem settled_of_not_mem {text : List Char} (h : 'Σ' ∉ text) (before : List Char) :
    EachSigma SettledSigma before text := by
  induction text generalizing before with
  | nil => trivial
  | cons c text ih =>
      obtain ⟨hc, htext⟩ := List.ne_and_not_mem_of_not_mem_cons h
      exact ⟨fun heq => absurd heq.symm hc, ih htext _⟩

/-! ### What a `Σ` meets -/

/-- A `$` is not skipped. -/
theorem holds_caseIgnorable_wildcard : caseIgnorableTable.holds '$' = false := by
  decide +kernel

/-- Of what follows, the first character that is not case-ignorable counts. -/
theorem startsCased_cons (c : Char) (text : List Char) :
    startsCased (c :: text) =
      if caseIgnorableTable.holds c then startsCased text else casedTable.holds c := by
  by_cases hskip : caseIgnorableTable.holds c
  · rw [if_pos hskip, startsCased, List.dropWhile_cons_of_pos hskip]
    rfl
  · rw [if_neg hskip, startsCased, List.dropWhile_cons_of_neg hskip]

theorem facesWildcard_cons (c : Char) (text : List Char) :
    facesWildcard (c :: text) =
      if caseIgnorableTable.holds c then facesWildcard text else c == '$' := by
  by_cases hskip : caseIgnorableTable.holds c
  · rw [if_pos hskip, facesWildcard, List.dropWhile_cons_of_pos hskip]
    rfl
  · rw [if_neg hskip, facesWildcard, List.dropWhile_cons_of_neg hskip]
    rfl

/-- A `$` in front is faced. -/
theorem facesWildcard_wildcard_cons (text : List Char) : facesWildcard ('$' :: text) = true := by
  rw [facesWildcard_cons, holds_caseIgnorable_wildcard]
  rfl

/-- A `$` is no letter. -/
theorem startsCased_of_facesWildcard {text : List Char} (h : facesWildcard text = true) :
    startsCased text = false := by
  induction text with
  | nil => rfl
  | cons c text ih =>
      rw [facesWildcard_cons] at h
      rw [startsCased_cons]
      by_cases hskip : caseIgnorableTable.holds c
      · rw [if_pos hskip] at h ⊢
        exact ih h
      · rw [if_neg hskip] at h ⊢
        rw [beq_iff_eq.mp h]
        decide +kernel

/-- A `Σ` meets the same in a pattern and in a text, unless it meets a `$` in the pattern. -/
def LooksAlike (pattern text : List Char) : Prop :=
  facesWildcard pattern = false → startsCased text = startsCased pattern

namespace LooksAlike

variable {pattern text : List Char}

/-- One more character is the same one on both sides. -/
theorem cons (h : LooksAlike pattern text) (c : Char) : LooksAlike (c :: pattern) (c :: text) := by
  intro hfaces
  rw [facesWildcard_cons] at hfaces
  rw [startsCased_cons, startsCased_cons]
  by_cases hskip : caseIgnorableTable.holds c
  · rw [if_pos hskip] at hfaces ⊢
    rw [if_pos hskip]
    exact h hfaces
  · rw [if_neg hskip, if_neg hskip]

/-- Behind a `$` anything may be met. -/
theorem wildcard (pattern text : List Char) : LooksAlike ('$' :: pattern) text := by
  intro hfaces
  rw [facesWildcard_wildcard_cons] at hfaces
  cases hfaces

end LooksAlike

/-- A pattern looks like the texts that it describes. -/
theorem Describes.looksAlike {pattern text : List Char} (h : Describes pattern text) :
    LooksAlike pattern text := by
  induction h with
  | nil => exact fun _ => rfl
  | rest piece hrest _ _ =>
      rw [hrest]
      exact .wildcard _ _
  | one _ htakes _ ih =>
      rw [htakes]
      exact ih.cons _

/-- A settled `Σ` is lower-cased in the pattern as it is in the text. -/
theorem lowerSigma_eq_of_settled {before after actualBefore actualAfter : List Char}
    (hsettled : SettledSigma before after) (hbefore : LooksAlike before actualBefore)
    (hafter : LooksAlike after actualAfter) :
    lowerSigma actualBefore actualAfter = lowerSigma before after := by
  unfold lowerSigma
  by_cases hfront : facesWildcard before
  · have hcased : startsCased after = true := hsettled.front hfront
    have hback : facesWildcard after = false := by
      by_contra hfaces
      rw [startsCased_of_facesWildcard (by simpa using hfaces)] at hcased
      cases hcased
    rw [hafter hback, hcased]
    simp
  · rw [hbefore (by simpa using hfront)]
    by_cases hback : facesWildcard after
    · rw [hsettled.back hback]
      rfl
    · rw [hafter (by simpa using hback)]

/-- Around any other character nothing matters. -/
theorem lowered_eq_of_ne {c : Char} (hc : c ≠ 'Σ') (before after before' after' : List Char) :
    lowered before c after = lowered before' c after' := by
  have hother : (c == 'Σ') = false := beq_eq_false_iff_ne.mpr hc
  simp only [lowered, hother, Bool.false_eq_true, if_false]

/-- A character is lower-cased in the pattern as it is in the text, if it is no `Σ` or a settled one. -/
theorem lowered_eq_of_settled {c : Char} {before after actualBefore actualAfter : List Char}
    (hsettled : c = 'Σ' → SettledSigma before after) (hbefore : LooksAlike before actualBefore)
    (hafter : LooksAlike after actualAfter) :
    lowered actualBefore c actualAfter = lowered before c after := by
  by_cases hc : c = 'Σ'
  · rw [lowered, lowered, lowerSigma_eq_of_settled (hsettled hc) hbefore hafter]
  · exact lowered_eq_of_ne hc _ _ _ _

/-! ### Patterns of settled `Σ` -/

/-- A `$` stays. -/
theorem lowered_wildcard (before after : List Char) : lowered before '$' after = ['$'] := by
  rw [lowered_eq_of_ne (by decide) before after [] []]
  decide +kernel

/-- What is lower-cased last is lower-cased behind what stands before it. -/
theorem exists_lowerFrom_append (before front text : List Char) :
    ∃ piece, lowerFrom before (front ++ text) =
      piece ++ lowerFrom (front.reverse ++ before) text := by
  induction front generalizing before with
  | nil => exact ⟨[], rfl⟩
  | cons c front ih =>
      obtain ⟨piece, hpiece⟩ := ih (c :: before)
      refine ⟨lowered before c (front ++ text) ++ piece, ?_⟩
      rw [List.cons_append, lowerFrom_cons, hpiece, List.append_assoc, List.reverse_cons,
        List.append_assoc]
      rfl

/-- **Settled patterns in lower case.**  A pattern of settled `Σ` describes in lower case what it
described before. -/
theorem Describes.lowerFrom {pattern text : List Char} (h : Describes pattern text)
    {before actual : List Char} (hbefore : LooksAlike before actual)
    (hsettled : EachSigma SettledSigma before pattern) :
    Describes (lowerFrom before pattern) (lowerFrom actual text) := by
  induction h generalizing before actual with
  | nil => exact .nil
  | @rest wanted pattern piece text hrest _ ih =>
      subst hrest
      obtain ⟨covered, hcovered⟩ := exists_lowerFrom_append actual piece text
      rw [lowerFrom_cons, lowered_wildcard, hcovered]
      exact Describes.wildcard_cons_iff.mpr
        ⟨covered, _, rfl, ih (.wildcard before _) hsettled.2⟩
  | @one wanted pattern c text hc htakes hlater ih =>
      subst htakes
      rw [lowerFrom_cons, lowerFrom_cons,
        lowered_eq_of_settled hsettled.1 hbefore (Describes.looksAlike hlater)]
      exact (Describes.fragment_append_iff (not_mem_lowered hc _ _)).mpr
        ⟨_, rfl, ih (hbefore.cons wanted) hsettled.2⟩

/-! ### Patterns with all gaps alike -/

/-- A pattern in which each `$` gave way to a gap. -/
def fillWith (gap pattern : List Char) : List Char :=
  pattern.flatMap fun c => if c = '$' then gap else [c]

theorem fillWith_wildcard_cons (gap pattern : List Char) :
    fillWith gap ('$' :: pattern) = gap ++ fillWith gap pattern := by
  simp [fillWith]

theorem fillWith_cons {c : Char} (hc : c ≠ '$') (gap pattern : List Char) :
    fillWith gap (c :: pattern) = c :: fillWith gap pattern := by
  simp [fillWith, hc]

/-- A pattern describes itself with the gaps filled. -/
theorem describes_fillWith (gap pattern : List Char) : Describes pattern (fillWith gap pattern) := by
  induction pattern with
  | nil => exact .nil
  | cons c pattern ih =>
      by_cases hc : c = '$'
      · subst hc
        rw [fillWith_wildcard_cons]
        exact .rest gap rfl ih
      · rw [fillWith_cons hc]
        exact .one hc rfl ih

/-- Where a `$` was faced, the gap is met. -/
theorem startsCased_fillWith {x : Char} (hx : caseIgnorableTable.holds x = false)
    (gap pattern : List Char) :
    startsCased (fillWith (x :: gap) pattern) =
      if facesWildcard pattern then casedTable.holds x else startsCased pattern := by
  induction pattern with
  | nil => rfl
  | cons c pattern ih =>
      by_cases hc : c = '$'
      · subst hc
        rw [fillWith_wildcard_cons, List.cons_append, startsCased_cons, hx,
          facesWildcard_wildcard_cons]
        rfl
      · rw [fillWith_cons hc, startsCased_cons, facesWildcard_cons, startsCased_cons, ih]
        by_cases hskip : caseIgnorableTable.holds c
        · rw [if_pos hskip, if_pos hskip, if_pos hskip]
        · rw [if_neg hskip, if_neg hskip, if_neg hskip, if_neg (by simpa using hc)]

/-- A text has at least as many of each character as the patterns that describe it. -/
theorem Describes.count_le {pattern text : List Char} (h : Describes pattern text) {c : Char}
    (hc : c ≠ '$') : pattern.count c ≤ text.count c := by
  induction h with
  | nil => exact Nat.le_refl _
  | rest piece hrest _ ih =>
      rw [hrest, List.count_cons_of_ne (Ne.symm hc), List.count_append]
      omega
  | one _ htakes _ ih =>
      rw [htakes, List.count_cons, List.count_cons]
      omega

section Gap

/-! A gap is left as it is when it is lower-cased, and holds no `sigma`.  Filling the gaps makes no
`sigma`, the one or the other lower-case form of `Σ`. -/

variable {gap : List Char} {sigma : Char}
  (hgap : ∀ before text, lowerFrom before (gap ++ text) =
    gap ++ lowerFrom (gap.reverse ++ before) text)
  (hquiet : sigma ∉ gap)
  (hmakes : ∀ before after, lowerSigma (fillWith gap.reverse before) (fillWith gap after) = sigma →
    lowerSigma before after = sigma)
include hmakes

/-- A filled pattern has no more of this letter for one character. -/
theorem count_lowered_fillWith_le (before : List Char) (c : Char) (after : List Char) :
    (lowered (fillWith gap.reverse before) c (fillWith gap after)).count sigma ≤
      (lowered before c after).count sigma := by
  by_cases hc : c = 'Σ'
  · subst hc
    change [lowerSigma _ _].count sigma ≤ [lowerSigma before after].count sigma
    by_cases hsigma : lowerSigma (fillWith gap.reverse before) (fillWith gap after) = sigma
    · exact Nat.le_of_eq (by rw [hsigma, hmakes before after hsigma])
    · rw [List.count_singleton, if_neg (by simpa using hsigma)]
      exact Nat.zero_le _
  · exact Nat.le_of_eq (congrArg (List.count sigma) (lowered_eq_of_ne hc _ _ _ _))

include hgap hquiet

/-- So it has no more of it at all. -/
theorem count_lowerFrom_fillWith_le (before pattern : List Char) :
    (lowerFrom (fillWith gap.reverse before) (fillWith gap pattern)).count sigma ≤
      (lowerFrom before pattern).count sigma := by
  induction pattern generalizing before with
  | nil => exact Nat.le_refl _
  | cons c pattern ih =>
      have hrest := ih (c :: before)
      rw [lowerFrom_cons, List.count_append]
      by_cases hc : c = '$'
      · subst hc
        rw [fillWith_wildcard_cons] at hrest ⊢
        rw [hgap, List.count_append, List.count_eq_zero.mpr hquiet]
        omega
      · have hfirst := count_lowered_fillWith_le hmakes before c pattern
        rw [fillWith_cons hc] at hrest ⊢
        rw [lowerFrom_cons, List.count_append]
        omega

/-- If it has no less of it, each `Σ` that gives this letter in the pattern gives it in the filled
pattern. -/
theorem eachSigma_of_count_le {before pattern : List Char}
    (h : (lowerFrom before pattern).count sigma ≤
      (lowerFrom (fillWith gap.reverse before) (fillWith gap pattern)).count sigma) :
    EachSigma (fun before after => lowerSigma before after = sigma →
      lowerSigma (fillWith gap.reverse before) (fillWith gap after) = sigma) before pattern := by
  induction pattern generalizing before with
  | nil => trivial
  | cons c pattern ih =>
      have hrest := count_lowerFrom_fillWith_le hgap hquiet hmakes (c :: before) pattern
      rw [lowerFrom_cons, List.count_append] at h
      by_cases hc : c = '$'
      · subst hc
        refine ⟨fun heq => absurd heq (by decide), ih ?_⟩
        rw [fillWith_wildcard_cons] at h hrest ⊢
        rw [hgap, List.count_append, List.count_eq_zero.mpr hquiet] at h
        omega
      · have hfirst := count_lowered_fillWith_le hmakes before c pattern
        rw [fillWith_cons hc] at h hrest
        rw [lowerFrom_cons, List.count_append] at h
        constructor
        · rintro rfl hsigma
          by_contra hother
          have hless : (lowered (fillWith gap.reverse before) 'Σ' (fillWith gap pattern)).count
              sigma = 0 := by
            simpa [lowered, List.count_singleton] using hother
          have hone : (lowered before 'Σ' pattern).count sigma = 1 := by
            simp [lowered, hsigma]
          omega
        · refine ih ?_
          rw [fillWith_cons hc]
          omega

end Gap

/-- A space in a gap ends the word in front of it and begins none. -/
theorem startsCased_fillWith_space (gap pattern : List Char) :
    startsCased (fillWith (' ' :: gap) pattern) = startsCased pattern := by
  rw [startsCased_fillWith (by decide +kernel)]
  by_cases hfaces : facesWildcard pattern
  · rw [if_pos hfaces, startsCased_of_facesWildcard hfaces]
    decide +kernel
  · rw [if_neg hfaces]

/-- A letter in a gap is met wherever a `$` was faced. -/
theorem startsCased_fillWith_letter (gap pattern : List Char) :
    startsCased (fillWith ('a' :: gap) pattern) =
      (facesWildcard pattern || startsCased pattern) := by
  rw [startsCased_fillWith (by decide +kernel)]
  by_cases hfaces : facesWildcard pattern
  · rw [if_pos hfaces, hfaces, Bool.true_or]
    decide +kernel
  · rw [if_neg hfaces, (Bool.not_eq_true _).mp hfaces, Bool.false_or]

section Necessity

variable {pattern : List Char}
  (h : ∀ text, Describes pattern text → Describes (lowerFrom [] pattern) (lowerFrom [] text))
include h

/-- A pattern that describes in lower case what it described before has, with its gaps filled, no less
of either letter. -/
theorem count_le_fillWith (gap : List Char) {sigma : Char} (hsigma : sigma ≠ '$') :
    (lowerFrom [] pattern).count sigma ≤ (lowerFrom [] (fillWith gap pattern)).count sigma :=
  (h _ (describes_fillWith gap pattern)).count_le hsigma

/-- Each `Σ` behind a `$` goes on with a letter: else it would end a word with the gap `" a"`. -/
theorem eachSigma_front :
    EachSigma (fun before after => facesWildcard before = true → startsCased after = true) []
      pattern := by
  have hsame : EachSigma (fun before after => lowerSigma before after = 'σ' →
      lowerSigma (fillWith ['a', ' '] before) (fillWith [' ', 'a'] after) = 'σ') [] pattern := by
    refine @eachSigma_of_count_le [' ', 'a'] 'σ' (fun _ _ => rfl) (by decide)
      (fun before after => ?_) [] pattern (count_le_fillWith h _ (by decide))
    change lowerSigma (fillWith ['a', ' '] before) (fillWith [' ', 'a'] after) = 'σ' → _
    unfold lowerSigma
    rw [startsCased_fillWith_letter, startsCased_fillWith_space]
    cases startsCased before <;> cases startsCased after <;> simp
  refine hsame.mono fun before after hsigma hfaces => ?_
  unfold lowerSigma at hsigma
  rw [startsCased_fillWith_letter, startsCased_fillWith_space, hfaces,
    startsCased_of_facesWildcard hfaces] at hsigma
  simpa using hsigma

/-- Before each `Σ` in front of a `$` there is no letter: else it would no longer end the word with the
gap `"a "`. -/
theorem eachSigma_back :
    EachSigma (fun before after => facesWildcard after = true → startsCased before = false) []
      pattern := by
  have hsame : EachSigma (fun before after => lowerSigma before after = 'ς' →
      lowerSigma (fillWith [' ', 'a'] before) (fillWith ['a', ' '] after) = 'ς') [] pattern := by
    refine @eachSigma_of_count_le ['a', ' '] 'ς' (fun _ _ => rfl) (by decide)
      (fun before after => ?_) [] pattern (count_le_fillWith h _ (by decide))
    change lowerSigma (fillWith [' ', 'a'] before) (fillWith ['a', ' '] after) = 'ς' → _
    unfold lowerSigma
    rw [startsCased_fillWith_letter, startsCased_fillWith_space]
    cases startsCased before <;> cases startsCased after <;> simp
  refine hsame.mono fun before after hsigma hfaces => ?_
  unfold lowerSigma at hsigma
  rw [startsCased_fillWith_letter, startsCased_fillWith_space, hfaces,
    startsCased_of_facesWildcard hfaces] at hsigma
  simpa using hsigma

/-- So each `Σ` of such a pattern is settled. -/
theorem settled_of_describes : Settled pattern :=
  ((eachSigma_front h).and (eachSigma_back h)).mono fun _ _ hboth => ⟨hboth.1, hboth.2⟩

end Necessity

/-- **Which patterns keep their texts in lower case.**  If a pattern matches a text, it also does so
in lower case, for all texts, exactly if each `Σ` in it is settled. -/
theorem lowercase_keeps_matches_iff (pattern : String) :
    (∀ text, fragmentsMatch pattern text = true →
      fragmentsMatch (lowercase pattern) (lowercase text) = true) ↔ Settled pattern.toList := by
  simp only [fragmentsMatch_iff, lowercase, String.toList_ofList]
  constructor
  · intro h
    refine settled_of_describes fun text htext => ?_
    have hlower := h (String.ofList text)
    rw [String.toList_ofList] at hlower
    exact hlower htext
  · intro hsettled text htext
    exact htext.lowerFrom (fun _ => rfl) hsettled

/-- The `Σ` of `AΣ$` would end a word, if the `$` covered no letter. -/
example : ¬ Settled "AΣ$".toList ∧ Settled "$Σb$".toList := by decide +kernel

/-- Patterns without `Σ` match in lower case what they matched before. -/
theorem fragmentsMatch_lowercase {pattern text : String} (hplain : 'Σ' ∉ pattern.toList)
    (h : fragmentsMatch pattern text = true) :
    fragmentsMatch (lowercase pattern) (lowercase text) = true :=
  (lowercase_keeps_matches_iff pattern).mpr (settled_of_not_mem hplain []) text h

end StructuralSearch
