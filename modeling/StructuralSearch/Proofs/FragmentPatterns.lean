import StructuralSearch.Proofs.Alignment
import StructuralSearch.Text.Lowercase
import StructuralSearch.Wildcard.Fragment

/-!
# The texts that a fragment pattern describes

A pattern is laid over a text from the left to the right: each `$` covers any stretch of the text,
and every other character covers itself.  This is a cut in the sense of `Aligned`, with `$` as the
rest wildcard.

`fragmentsMatch` does not try all cuts.  It fixes the first and the last fragment at the two ends and
looks for each fragment in between at the leftmost place behind the one before it.
`fragmentsMatch_iff` says that it misses no text all the same: what follows the leftmost occurrence
of a fragment ends with what follows any other one, and the `$` in front of the next fragment covers
the difference.

So a pattern describes itself, and it describes more texts if a part of it gives way to a `$`.  A
pattern without `$` describes nothing else, and lower-casing brings no `$` into it.
-/

namespace StructuralSearch

open Text

/-- A pattern can be laid over a text. -/
abbrev Describes (pattern text : List Char) : Prop :=
  Aligned (fun c => c = '$') (fun wanted actual => wanted = actual) pattern text

namespace Text

/-- The parts between the separators make up the text, and no separator is in them. -/
theorem splitOnChar_spec (separator : Char) (text : List Char) :
    ∃ first others, splitOnChar separator text = first :: others ∧
      text = first ++ others.flatMap (separator :: ·) ∧
      ∀ part ∈ first :: others, separator ∉ part := by
  induction text with
  | nil => exact ⟨[], [], rfl, rfl, by simp⟩
  | cons c text ih =>
      obtain ⟨first, others, hsplit, rfl, hparts⟩ := ih
      by_cases hc : c = separator
      · subst hc
        exact ⟨[], first :: others, by simp [splitOnChar, hsplit], by simp,
          List.forall_mem_cons.mpr ⟨by simp, hparts⟩⟩
      · obtain ⟨hfirst, hothers⟩ := List.forall_mem_cons.mp hparts
        refine ⟨c :: first, others, by simp [splitOnChar, hc, hsplit], rfl, ?_⟩
        refine List.forall_mem_cons.mpr ⟨fun hmem => ?_, hothers⟩
        rcases List.mem_cons.mp hmem with heq | hmem
        · exact hc heq.symm
        · exact hfirst hmem

/-- What follows the leftmost occurrence of a piece follows an occurrence. -/
theorem exists_of_afterFirst? {piece text rest : List Char}
    (h : afterFirst? piece text = some rest) : ∃ front, text = front ++ (piece ++ rest) := by
  induction text with
  | nil =>
      rw [afterFirst?, after?_eq_some_iff] at h
      exact ⟨[], h⟩
  | cons c text ih =>
      rw [afterFirst?, Option.or_eq_some_iff, after?_eq_some_iff] at h
      rcases h with hhere | ⟨-, hlater⟩
      · exact ⟨[], hhere⟩
      · obtain ⟨front, rfl⟩ := ih hlater
        exact ⟨c :: front, rfl⟩

/-- What follows any occurrence of a piece stands at the end of what follows the leftmost one. -/
theorem exists_afterFirst?_eq (front piece rest : List Char) :
    ∃ between, afterFirst? piece (front ++ (piece ++ rest)) = some (between ++ rest) := by
  induction front with
  | nil =>
      have hhere : after? piece (piece ++ rest) = some rest := after?_eq_some_iff.mpr rfl
      refine ⟨[], ?_⟩
      rw [List.nil_append]
      cases htext : piece ++ rest with
      | nil => rwa [htext] at hhere
      | cons c text =>
          rw [htext] at hhere
          rw [afterFirst?, hhere]
          rfl
  | cons c front ih =>
      obtain ⟨between, hlater⟩ := ih
      rw [List.cons_append, afterFirst?, hlater]
      cases hhere : after? piece (c :: (front ++ (piece ++ rest))) with
      | none => exact ⟨between, rfl⟩
      | some found =>
          -- The occurrence at the very front leaves all of the text but the piece.
          have htext := after?_eq_some_iff.mp hhere
          have hsuffix : rest <:+ found := by
            have hwhole : piece ++ rest <:+ piece ++ found := by
              rw [← htext]
              exact ⟨c :: front, rfl⟩
            have hlength : rest.length ≤ found.length := by
              have := hwhole.length_le
              simp only [List.length_append] at this
              omega
            exact List.suffix_of_suffix_length_le ((List.suffix_append piece rest).trans hwhole)
              (List.suffix_append piece found) hlength
          obtain ⟨between, rfl⟩ := hsuffix
          exact ⟨between, rfl⟩

end Text

namespace Describes

variable {pattern text fragment : List Char}

/-- A fragment in front covers itself. -/
theorem fragment_append_iff (hfragment : '$' ∉ fragment) :
    Describes (fragment ++ pattern) text ↔
      ∃ rest, text = fragment ++ rest ∧ Describes pattern rest := by
  induction fragment generalizing text with
  | nil => simp
  | cons c fragment ih =>
      obtain ⟨hc, hfragment⟩ := List.ne_and_not_mem_of_not_mem_cons hfragment
      rw [List.cons_append, Describes, Aligned.one_iff (fun c => c = '$') (Ne.symm hc)]
      constructor
      · rintro ⟨_, later, rfl, rfl, hlater⟩
        obtain ⟨rest, rfl, hrest⟩ := (ih hfragment).mp hlater
        exact ⟨rest, rfl, hrest⟩
      · rintro ⟨rest, rfl, hrest⟩
        exact ⟨c, fragment ++ rest, rfl, rfl, (ih hfragment).mpr ⟨rest, rfl, hrest⟩⟩

/-- A pattern without `$` describes itself only. -/
theorem iff_eq_of_fragment (hfragment : '$' ∉ fragment) :
    Describes fragment text ↔ text = fragment := by
  have h : Describes (fragment ++ []) text ↔ ∃ rest, text = fragment ++ rest ∧ Describes [] rest :=
    fragment_append_iff hfragment
  simpa [Describes, Aligned.nil_iff] using h

/-- A `$` in front covers a stretch of any length. -/
theorem wildcard_cons_iff :
    Describes ('$' :: pattern) text ↔ ∃ front rest, text = front ++ rest ∧ Describes pattern rest :=
  Aligned.rest_iff _ rfl

/-- The `$` in front of a pattern also covers what is put in front of the text. -/
theorem append_left (front : List Char) (h : Describes ('$' :: pattern) text) :
    Describes ('$' :: pattern) (front ++ text) := by
  obtain ⟨covered, rest, rfl, hrest⟩ := wildcard_cons_iff.mp h
  exact wildcard_cons_iff.mpr ⟨front ++ covered, rest, by simp, hrest⟩

/-- **More with a wildcard.**  If a part of a pattern gives way to a `$`, it still describes the texts
that it described before. -/
theorem generalise {front part back : List Char} (h : Describes (front ++ (part ++ back)) text) :
    Describes (front ++ '$' :: back) text := by
  obtain ⟨first, behind, rfl, hfirst, hbehind⟩ := Aligned.append_iff.mp h
  obtain ⟨covered, last, rfl, -, hlast⟩ := Aligned.append_iff.mp hbehind
  exact hfirst.append (wildcard_cons_iff.mpr ⟨covered, last, rfl, hlast⟩)

end Describes

/-- Fragments with a `$` in front of each and one behind them. -/
def spread (fragments : List (List Char)) : List Char :=
  fragments.flatMap ('$' :: ·) ++ ['$']

theorem spread_cons (fragment : List Char) (fragments : List (List Char)) :
    spread (fragment :: fragments) = '$' :: (fragment ++ spread fragments) := by
  simp [spread]

/-- A spread begins with a `$`. -/
theorem exists_spread_eq (fragments : List (List Char)) :
    ∃ pattern, spread fragments = '$' :: pattern := by
  cases fragments with
  | nil => exact ⟨[], rfl⟩
  | cons fragment fragments => exact ⟨_, spread_cons fragment fragments⟩

/-- **The leftmost places will do.**  Fragments occur in order, each looked for behind the leftmost
place of the one before it, exactly if they can be spread over the text. -/
theorem occurInOrder_iff {fragments : List (List Char)} {text : List Char}
    (hfragments : ∀ fragment ∈ fragments, '$' ∉ fragment) :
    occurInOrder fragments text = true ↔ Describes (spread fragments) text := by
  induction fragments generalizing text with
  | nil =>
      refine iff_of_true rfl (Describes.wildcard_cons_iff.mpr ⟨text, [], by simp, .nil⟩)
  | cons fragment fragments ih =>
      obtain ⟨hfragment, hothers⟩ := List.forall_mem_cons.mp hfragments
      obtain ⟨pattern, hpattern⟩ := exists_spread_eq fragments
      have hspread : Describes (spread (fragment :: fragments)) text ↔
          ∃ front rest, text = front ++ (fragment ++ rest) ∧ Describes (spread fragments) rest := by
        rw [spread_cons, Describes.wildcard_cons_iff]
        simp only [Describes.fragment_append_iff hfragment]
        constructor
        · rintro ⟨front, _, rfl, rest, rfl, hrest⟩
          exact ⟨front, rest, rfl, hrest⟩
        · rintro ⟨front, rest, rfl, hrest⟩
          exact ⟨front, _, rfl, rest, rfl, hrest⟩
      rw [occurInOrder]
      split
      · rename_i hempty
        obtain rfl := List.isEmpty_iff.mp hempty
        rw [ih hothers, hspread]
        constructor
        · intro h
          exact ⟨[], text, rfl, h⟩
        · rintro ⟨front, rest, rfl, hrest⟩
          rw [hpattern] at hrest ⊢
          exact hrest.append_left front
      · rw [hspread]
        constructor
        · intro h
          split at h
          · rename_i rest hfound
            obtain ⟨front, rfl⟩ := exists_of_afterFirst? hfound
            exact ⟨front, rest, rfl, (ih hothers).mp h⟩
          · cases h
        · rintro ⟨front, rest, rfl, hrest⟩
          obtain ⟨between, hfound⟩ := exists_afterFirst?_eq front fragment rest
          rw [hfound]
          refine (ih hothers).mpr ?_
          rw [hpattern] at hrest ⊢
          exact hrest.append_left between

/-- The fragments at the two ends stand at the ends of the text, and the others are spread over what
is between. -/
theorem matchesFragments_iff {first last text : List Char} {middle : List (List Char)}
    (hfirst : '$' ∉ first) (hmiddle : ∀ fragment ∈ middle, '$' ∉ fragment) (hlast : '$' ∉ last) :
    matchesFragments first middle last text = true ↔
      Describes (first ++ (spread middle ++ last)) text := by
  have hinner : ∀ inner : List Char, Describes (spread middle ++ last) inner ↔
      ∃ between, inner = between ++ last ∧ occurInOrder middle between = true := by
    intro inner
    simp only [Describes, Aligned.append_iff, occurInOrder_iff hmiddle]
    constructor
    · rintro ⟨between, back, rfl, hbetween, hback⟩
      obtain rfl := (Describes.iff_eq_of_fragment hlast).mp hback
      exact ⟨between, rfl, hbetween⟩
    · rintro ⟨between, rfl, hbetween⟩
      exact ⟨between, last, rfl, hbetween, (Describes.iff_eq_of_fragment hlast).mpr rfl⟩
  rw [Describes.fragment_append_iff hfirst]
  simp only [hinner, matchesFragments]
  constructor
  · intro h
    split at h
    · rename_i between hbetween
      obtain ⟨rest, hrest, hbefore⟩ := Option.bind_eq_some_iff.mp hbetween
      exact ⟨rest, after?_eq_some_iff.mp hrest, between, before?_eq_some_iff.mp hbefore, h⟩
    · cases h
  · rintro ⟨rest, rfl, between, rfl, h⟩
    have hbetween : (after? first (first ++ (between ++ last))).bind (before? last) =
        some between := by
      rw [after?_eq_some_iff.mpr rfl]
      exact before?_eq_some_iff.mpr rfl
    rw [hbetween]
    exact h

/-- **What a pattern describes.**  A pattern matches exactly the texts over which it can be laid. -/
theorem fragmentsMatch_iff {pattern text : String} :
    fragmentsMatch pattern text = true ↔ Describes pattern.toList text.toList := by
  obtain ⟨first, others, hsplit, hpattern, hparts⟩ := splitOnChar_spec '$' pattern.toList
  obtain ⟨hfirst, hothers⟩ := List.forall_mem_cons.mp hparts
  unfold fragmentsMatch
  rw [hsplit]
  cases others with
  | nil =>
      have hself : pattern.toList = first := by simpa using hpattern
      rw [hself, Describes.iff_eq_of_fragment hfirst, beq_iff_eq, ← hself, String.toList_inj]
      exact eq_comm
  | cons second others =>
      dsimp only
      have hends := List.dropLast_append_getLast (List.cons_ne_nil second others)
      rw [matchesFragments_iff hfirst
        (fun fragment hmem => hothers fragment (List.dropLast_subset _ hmem))
        (hothers _ (List.getLast_mem _))]
      suffices hsame : first ++ (spread (second :: others).dropLast ++
          (second :: others).getLast (List.cons_ne_nil second others)) = pattern.toList by
        rw [hsame]
      rw [hpattern]
      conv_rhs => rw [← hends]
      simp [spread]

/-- A text without `$` holds no `$`. -/
theorem hasWildcard_eq_false_iff {text : String} :
    hasWildcard text = false ↔ '$' ∉ text.toList := by
  simp [hasWildcard]

/-- A pattern without `$` matches itself only. -/
theorem fragmentsMatch_iff_eq {pattern text : String} (hpattern : hasWildcard pattern = false) :
    fragmentsMatch pattern text = true ↔ pattern = text := by
  rw [fragmentsMatch_iff, Describes.iff_eq_of_fragment (hasWildcard_eq_false_iff.mp hpattern),
    String.toList_inj]
  exact eq_comm

/-- Every pattern matches itself. -/
theorem fragmentsMatch_self (text : String) : fragmentsMatch text text = true :=
  fragmentsMatch_iff.mpr (Aligned.self fun _ _ _ => rfl)

/-- **Generalised patterns.**  A pattern in which a stretch gives way to a `$` matches what it matched
before. -/
theorem fragmentsMatch_generalise {pattern general text : String} {front part back : List Char}
    (hpattern : pattern.toList = front ++ (part ++ back))
    (hgeneral : general.toList = front ++ '$' :: back) (h : fragmentsMatch pattern text = true) :
    fragmentsMatch general text = true := by
  rw [fragmentsMatch_iff] at h ⊢
  rw [hpattern] at h
  rw [hgeneral]
  exact h.generalise

/-! ### Gaps between fragments -/

/-- The fragments with a gap between each two of them: `f₀ w₁ f₁ … wₙ fₙ`. -/
def fillGaps : List (List Char) → List (List Char) → List Char
  | fragment :: fragments, gap :: gaps => fragment ++ (gap ++ fillGaps fragments gaps)
  | fragments, _ => fragments.flatten

/-- The parts between the separators are those that the standard cut of a list gives. -/
theorem Text.splitOnChar_eq_splitOn (separator : Char) (text : List Char) :
    splitOnChar separator text = text.splitOn separator := by
  obtain ⟨first, others, hsplit, htext, hparts⟩ := splitOnChar_spec separator text
  have hwhole : [separator].intercalate (first :: others) = text := by
    rw [htext]
    clear hsplit htext hparts
    induction others generalizing first with
    | nil => simp
    | cons second others ih => simp [ih second]
  rw [hsplit, ← hwhole]
  exact (List.splitOn_intercalate separator hparts (List.cons_ne_nil _ _)).symm

/-- Fragments with a `$` in front of each but the first describe the texts in which each `$` gave way
to a gap. -/
theorem describes_fragments_iff {first text : List Char} {others : List (List Char)}
    (hfragments : ∀ fragment ∈ first :: others, '$' ∉ fragment) :
    Describes (first ++ others.flatMap ('$' :: ·)) text ↔
      ∃ gaps : List (List Char), gaps.length = others.length ∧
        text = fillGaps (first :: others) gaps := by
  induction others generalizing first text with
  | nil =>
      obtain ⟨hfirst, -⟩ := List.forall_mem_cons.mp hfragments
      rw [List.flatMap_nil, List.append_nil, Describes.iff_eq_of_fragment hfirst]
      constructor
      · intro h
        exact ⟨[], rfl, by simpa [fillGaps] using h⟩
      · intro h
        obtain ⟨gaps, hlength, htext⟩ := h
        obtain rfl := List.length_eq_zero_iff.mp hlength
        simpa [fillGaps] using htext
  | cons second others ih =>
      obtain ⟨hfirst, hothers⟩ := List.forall_mem_cons.mp hfragments
      rw [List.flatMap_cons, List.cons_append, Describes.fragment_append_iff hfirst]
      simp only [Describes.wildcard_cons_iff, ih hothers]
      constructor
      · intro h
        obtain ⟨_, rfl, gap, _, rfl, gaps, hlength, rfl⟩ := h
        exact ⟨gap :: gaps, by simp [hlength], rfl⟩
      · intro h
        obtain ⟨gaps, hlength, htext⟩ := h
        cases gaps with
        | nil => simp at hlength
        | cons gap gaps =>
            have hcount : gaps.length = others.length := by simpa using hlength
            exact ⟨_, htext, gap, _, rfl, gaps, hcount, rfl⟩

/-- **The language of fragment patterns.**  A pattern matches exactly the texts that are made of its
fragments, the parts between the `$`, with any texts in the gaps between them.  Without a `$` there is
no gap, and only the pattern itself is matched. -/
theorem fragmentsMatch_iff_exists_gaps (pattern text : String) :
    (fragmentsMatch pattern text = true ↔
      ∃ gaps : List (List Char), gaps.length + 1 = (pattern.toList.splitOn '$').length ∧
        text.toList = fillGaps (pattern.toList.splitOn '$') gaps) ∧
    ('$' ∉ pattern.toList → (fragmentsMatch pattern text = true ↔ text = pattern)) := by
  constructor
  · obtain ⟨first, others, hsplit, hpattern, hparts⟩ := splitOnChar_spec '$' pattern.toList
    rw [← splitOnChar_eq_splitOn, hsplit, fragmentsMatch_iff, hpattern,
      describes_fragments_iff hparts]
    simp only [List.length_cons, Nat.add_right_cancel_iff]
  · intro hplain
    rw [fragmentsMatch_iff_eq (hasWildcard_eq_false_iff.mpr hplain)]
    exact eq_comm

/-- A `$` of the text is a character like any other, and gaps may be empty. -/
example : fragmentsMatch "a$c$" "a$b$c" = true := by decide +kernel

/-! ### Lower case -/

namespace Text

/-- A number is the code point of its character, unless it is none at all. -/
theorem toNat_ofNat (n : Nat) : (Char.ofNat n).toNat = n ∨ (Char.ofNat n).toNat = 0 := by
  by_cases hvalid : n.isValidChar
  · rw [Char.ofNat, dif_pos hvalid]
    exact Or.inl rfl
  · rw [Char.ofNat, dif_neg hvalid]
    exact Or.inr rfl

/-- Characters behind `$` are no `$`. -/
theorem ofNat_ne_wildcard {n : Nat} (h : 36 < n) : Char.ofNat n ≠ '$' := by
  intro heq
  have hnat := toNat_ofNat n
  rw [heq] at hnat
  rcases hnat with hnat | hnat
  · exact absurd hnat (Nat.ne_of_lt h)
  · cases hnat

/-- A case map makes a `$` only of a `$`, if none of its runs leads that far down. -/
theorem applyRuns_ne_wildcard {runs : List CaseRun} {c : Char} (hc : c ≠ '$')
    (hruns : ∀ run ∈ runs, (36 : Int) < run.first + run.shift) : applyRuns runs c ≠ '$' := by
  unfold applyRuns
  split
  · rename_i run hfound
    have hmoves := List.find?_some hfound
    simp only [CaseRun.moves, Bool.and_eq_true, decide_eq_true_eq] at hmoves
    have hrun := hruns run (List.mem_of_find?_eq_some hfound)
    exact ofNat_ne_wildcard (by omega)
  · exact hc

/-- Lower-casing a character makes no `$`. -/
theorem lowerChar_ne_wildcard {c : Char} (hc : c ≠ '$') : lowerChar c ≠ '$' := by
  unfold lowerChar
  split
  · unfold Char.toLower
    split
    · rename_i hupper
      intro heq
      have hlow : 65 ≤ c.val.toNat := UInt32.le_iff_toNat_le.mp hupper.1
      have hhigh : c.val.toNat ≤ 90 := UInt32.le_iff_toNat_le.mp hupper.2
      have hsum : (c.val + 32).toNat = 36 := congrArg (fun c : Char => c.val.toNat) heq
      rw [UInt32.toNat_add, show (32 : UInt32).toNat = 32 from rfl] at hsum
      omega
    · exact hc
  · exact applyRuns_ne_wildcard hc (by decide +kernel)

/-- The lower-case form of one character between what stands before it, nearest first, and after
it. -/
def lowered (before : List Char) (c : Char) (after : List Char) : List Char :=
  if c == 'Σ' then [lowerSigma before after]
  else if c == 'İ' then ['i', '\u0307']
  else [lowerChar c]

/-- A text is lower-cased one character after the other. -/
theorem lowerFrom_cons (before : List Char) (c : Char) (text : List Char) :
    lowerFrom before (c :: text) = lowered before c text ++ lowerFrom (c :: before) text :=
  rfl

/-- Lower-casing a character between others makes no `$`. -/
theorem not_mem_lowered {c : Char} (hc : c ≠ '$') (before after : List Char) :
    '$' ∉ lowered before c after := by
  unfold lowered
  split
  · unfold lowerSigma
    split <;> decide
  · split
    · decide
    · exact List.mem_singleton.not.mpr (lowerChar_ne_wildcard hc).symm

/-- Lower-casing a text makes no `$`. -/
theorem not_mem_lowerFrom {text : List Char} (h : '$' ∉ text) (before : List Char) :
    '$' ∉ lowerFrom before text := by
  induction text generalizing before with
  | nil => exact List.not_mem_nil
  | cons c text ih =>
      obtain ⟨hc, htext⟩ := List.ne_and_not_mem_of_not_mem_cons h
      rw [lowerFrom_cons]
      exact List.not_mem_append (not_mem_lowered (Ne.symm hc) before text) (ih htext _)

end Text

/-- Lower-casing keeps a text free of `$`. -/
theorem hasWildcard_lowercase {text : String} (h : hasWildcard text = false) :
    hasWildcard (Text.lowercase text) = false := by
  rw [hasWildcard_eq_false_iff] at h ⊢
  rw [Text.lowercase, String.toList_ofList]
  exact Text.not_mem_lowerFrom h []

end StructuralSearch
