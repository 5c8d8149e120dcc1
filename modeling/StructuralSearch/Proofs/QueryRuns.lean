import Mathlib.Data.List.Chain
import StructuralSearch.Search.TextPattern

/-!
# The runs of a text query

A text query is a row of runs: white space as far as it goes, `$` cut from the left into markers of at
most three, and what stands between these, the literals.  `Run.Cuts` says so of a list of runs, and
`Run.exists_cuts` that every text has such a list.

The tokens of a pattern are finer, since each character of a literal is a token of its own.  The local
fact is that reading pieces and reading runs come to the same: the pieces of a text are those of its
runs (`Run.Cuts.scan_eq`).  So the tokens of a query are those of its runs
(`Run.Cuts.ofPieces_scan_eq`), a single one for a run of white space.
-/

namespace StructuralSearch

open Text

/-- A stretch of a text query that is read as one. -/
inductive Run
  /-- white space, or characters that are neither white space nor `$` -/
  | plain (blank : Bool) (text : List Char)
  | marker (m : Marker)
  deriving DecidableEq, Repr

namespace Run

/-- The characters a run is written with. -/
def chars : Run → List Char
  | plain _ text => text
  | marker m => m.text.toList

/-- A run holds at least one character, and only characters of its sort. -/
def Proper : Run → Prop
  | plain blank text => text ≠ [] ∧ ∀ c ∈ text, c ≠ '$' ∧ isBlank c = blank
  | marker _ => True

/-- Which runs may be neighbours: two of one sort would be one run, but of more than three `$` the
first three are a marker. -/
def MayMeet : Run → Run → Prop
  | plain a _, plain b _ => a ≠ b
  | marker m, marker _ => m = .rest
  | _, _ => True

/-- The runs of a text. -/
structure Cuts (runs : List Run) (text : List Char) : Prop where
  spelled : runs.flatMap chars = text
  proper : ∀ run ∈ runs, run.Proper
  apart : runs.IsChain MayMeet

instance decidableProper : DecidablePred Proper
  | plain blank text =>
      -- Of the ways to decide this only the one along the list is short.
      letI := List.decidableBAll (fun c => c ≠ '$' ∧ isBlank c = blank) text
      inferInstanceAs (Decidable (text ≠ [] ∧ ∀ c ∈ text, c ≠ '$' ∧ isBlank c = blank))
  | marker _ => inferInstanceAs (Decidable True)

instance decidableMayMeet : DecidableRel MayMeet
  | plain a _, plain b _ => inferInstanceAs (Decidable (a ≠ b))
  | plain _ _, marker _ => inferInstanceAs (Decidable True)
  | marker _, plain _ _ => inferInstanceAs (Decidable True)
  | marker m, marker _ => inferInstanceAs (Decidable (m = .rest))

instance decidableCuts (runs : List Run) (text : List Char) : Decidable (Cuts runs text) :=
  decidable_of_iff (runs.flatMap chars = text ∧ (∀ run ∈ runs, run.Proper) ∧ runs.IsChain MayMeet)
    ⟨fun h => ⟨h.1, h.2.1, h.2.2⟩, fun h => ⟨h.spelled, h.proper, h.apart⟩⟩

/-- The pieces that a run consists of. -/
def pieces : Run → List Piece
  | plain _ text => text.map .plain
  | marker m => [.marker m]

/-- The tokens of a run. -/
def tokens : Run → List Token
  | plain false text => text.map .literal
  | plain true _ => [.blanks]
  | marker m => [.ofMarker m]

/-- The first run is cut off, and the others cut the rest. -/
theorem Cuts.tail {run : Run} {runs : List Run} {text : List Char} (h : Cuts (run :: runs) text) :
    ∃ later, text = run.chars ++ later ∧ Cuts runs later := by
  refine ⟨runs.flatMap chars, h.spelled.symm, rfl, ?_, h.apart.tail⟩
  intro other hother
  exact h.proper other (List.mem_cons_of_mem _ hother)

/-- Only a marker begins with `$`. -/
theorem Cuts.exists_marker {runs : List Run} {text : List Char} (h : Cuts runs text)
    (hhead : text.head? = some '$') : ∃ m later, runs = .marker m :: later := by
  cases runs with
  | nil =>
      rw [← h.spelled] at hhead
      cases hhead
  | cons run later =>
      have hproper := h.proper run List.mem_cons_self
      rw [← h.spelled, List.flatMap_cons] at hhead
      cases run with
      | marker m => exact ⟨m, later, rfl⟩
      | plain blank written =>
          obtain ⟨c, others, rfl⟩ := List.exists_cons_of_ne_nil hproper.1
          exact absurd (Option.some.inj hhead) (hproper.2 c List.mem_cons_self).1

/-! ### Every text has runs -/

/-- A run in front of a text, if it may stand in front of the first run there. -/
theorem Cuts.cons {run : Run} {runs : List Run} {text : List Char} (h : Cuts runs text)
    (hproper : run.Proper) (hmeets : ∀ next ∈ runs.head?, run.MayMeet next) :
    Cuts (run :: runs) (run.chars ++ text) where
  spelled := by rw [List.flatMap_cons, h.spelled]
  proper := by
    intro other hother
    rcases List.mem_cons.mp hother with rfl | hlater
    · exact hproper
    · exact h.proper other hlater
  apart := List.isChain_cons.mpr ⟨hmeets, h.apart⟩

/-- A marker in front of a text. -/
theorem Cuts.cons_marker {m : Marker} {runs : List Run} {text : List Char} (h : Cuts runs text)
    (hstops : m = .rest ∨ text.head? ≠ some '$') :
    Cuts (.marker m :: runs) (m.text.toList ++ text) := by
  refine h.cons (show Proper (.marker m) from trivial) ?_
  intro next hnext
  cases next with
  | plain blank written => trivial
  | marker other =>
      apply hstops.resolve_right
      intro hhead
      obtain ⟨later, rfl⟩ := List.head?_eq_some_iff.mp hnext
      apply hhead
      rw [← h.spelled, List.flatMap_cons]
      cases other <;> rfl

/-- A plain character in front of a text becomes a part of the first run or a run of its own. -/
theorem Cuts.exists_cons {c : Char} {runs : List Run} {text : List Char} (h : Cuts runs text)
    (hc : c ≠ '$') : ∃ more, Cuts more (c :: text) := by
  by_cases hfirst : ∃ written later, runs = .plain (isBlank c) written :: later
  · obtain ⟨written, later, rfl⟩ := hfirst
    obtain ⟨behind, rfl, hlater⟩ := h.tail
    have hproper : Proper (.plain (isBlank c) (c :: written)) := by
      refine ⟨List.cons_ne_nil c written, ?_⟩
      intro d hd
      rcases List.mem_cons.mp hd with rfl | hd
      · exact ⟨hc, rfl⟩
      · exact (h.proper _ List.mem_cons_self).2 d hd
    refine ⟨_, hlater.cons hproper ?_⟩
    intro next hnext
    have hmeets := (List.isChain_cons.mp h.apart).1 next hnext
    cases next with
    | plain blank other => exact hmeets
    | marker m => trivial
  · have hproper : Proper (.plain (isBlank c) [c]) := by
      refine ⟨List.cons_ne_nil c [], ?_⟩
      intro d hd
      rw [List.mem_singleton.mp hd]
      exact ⟨hc, rfl⟩
    refine ⟨_, h.cons hproper ?_⟩
    intro next hnext
    cases next with
    | plain blank other =>
        intro heq
        obtain ⟨later, rfl⟩ := List.head?_eq_some_iff.mp hnext
        exact hfirst ⟨other, later, by rw [heq]⟩
    | marker m => trivial

/-- Every text has runs. -/
theorem exists_cuts (text : List Char) : ∃ runs, Cuts runs text := by
  fun_induction Piece.scan text with
  | case1 text ih =>
      obtain ⟨runs, h⟩ := ih
      exact ⟨_, h.cons_marker (Or.inl rfl)⟩
  | case2 text hstops ih =>
      obtain ⟨runs, h⟩ := ih
      have hhead : text.head? ≠ some '$' := by
        intro hhead
        obtain ⟨later, rfl⟩ := List.head?_eq_some_iff.mp hhead
        exact hstops later rfl
      exact ⟨.marker .node :: runs, h.cons_marker (Or.inr hhead)⟩
  | case3 text hstops hstops' ih =>
      obtain ⟨runs, h⟩ := ih
      have hhead : text.head? ≠ some '$' := by
        intro hhead
        obtain ⟨later, rfl⟩ := List.head?_eq_some_iff.mp hhead
        exact hstops' later rfl
      exact ⟨.marker .identifier :: runs, h.cons_marker (Or.inr hhead)⟩
  | case4 c text _ _ hc ih =>
      obtain ⟨runs, h⟩ := ih
      exact h.exists_cons hc
  | case5 => exact ⟨[], rfl, by simp, .nil⟩

/-- Of four `$` three are a marker, and the last one is another. -/
example : Cuts [.marker .rest, .marker .identifier, .plain false ['a', '('], .plain true [' ', ' '],
    .marker .node] "$$$$a(  $$".toList := by
  decide

/-! ### From runs to pieces and tokens -/

/-- Plain characters in front are read as they stand. -/
theorem scan_append {front : List Char} (h : ∀ c ∈ front, c ≠ '$') (text : List Char) :
    Piece.scan (front ++ text) = front.map .plain ++ Piece.scan text := by
  induction front with
  | nil => rfl
  | cons c front ih =>
      have hc := h c List.mem_cons_self
      have hscan : Piece.scan (c :: (front ++ text)) = .plain c :: Piece.scan (front ++ text) := by
        rw [Piece.scan] <;> simp [hc]
      rw [List.cons_append, hscan, ih fun d hd => h d (List.mem_cons_of_mem _ hd)]
      rfl

/-- A marker in front is read as it stands, if no `$` behind it makes it longer. -/
theorem scan_marker {m : Marker} {text : List Char} (h : m = .rest ∨ text.head? ≠ some '$') :
    Piece.scan (m.text.toList ++ text) = .marker m :: Piece.scan text := by
  have hstops : m ≠ .rest → ∀ c later, text = c :: later → c ≠ '$' := by
    intro hm c later htext
    have hhead := h.resolve_left hm
    rw [htext] at hhead
    simpa using hhead
  cases m with
  | rest => rfl
  | node =>
      cases text with
      | nil => rfl
      | cons c later =>
          have hc := hstops (by decide) c later rfl
          simp [Marker.text, Piece.scan, hc]
  | identifier =>
      cases text with
      | nil => rfl
      | cons c later =>
          have hc := hstops (by decide) c later rfl
          simp [Marker.text, Piece.scan, hc]

/-- **Runs tell the pieces.**  The pieces of a text are those of its runs. -/
theorem Cuts.scan_eq {runs : List Run} {text : List Char} (h : Cuts runs text) :
    Piece.scan text = runs.flatMap pieces := by
  induction runs generalizing text with
  | nil =>
      rw [← h.spelled]
      rfl
  | cons run runs ih =>
      obtain ⟨later, rfl, hlater⟩ := h.tail
      rw [List.flatMap_cons, ← ih hlater]
      cases run with
      | plain blank written =>
          exact scan_append (fun c hc => ((h.proper _ List.mem_cons_self).2 c hc).1) later
      | marker m =>
          apply scan_marker
          by_cases hhead : later.head? = some '$'
          · left
            obtain ⟨other, others, rfl⟩ := hlater.exists_marker hhead
            exact (List.isChain_cons_cons.mp h.apart).1
          · exact Or.inr hhead

/-- The characters of a literal are a token each. -/
theorem ofPieces_literal {text : List Char} (h : ∀ c ∈ text, isBlank c = false) (hne : text ≠ [])
    (afterBlank : Bool) (pieces : List Piece) :
    Token.ofPieces afterBlank (text.map .plain ++ pieces) =
      text.map .literal ++ Token.ofPieces false pieces := by
  induction text generalizing afterBlank with
  | nil => exact absurd rfl hne
  | cons c text ih =>
      have hc := h c List.mem_cons_self
      simp only [List.map_cons, List.cons_append, Token.ofPieces, hc, Bool.false_eq_true, ↓reduceIte]
      cases text with
      | nil => rfl
      | cons d text =>
          rw [ih (fun e he => h e (List.mem_cons_of_mem _ he)) (List.cons_ne_nil d text)]

/-- Behind white space, further white space is no token. -/
theorem ofPieces_blanks {text : List Char} (h : ∀ c ∈ text, isBlank c = true)
    (pieces : List Piece) :
    Token.ofPieces true (text.map .plain ++ pieces) = Token.ofPieces true pieces := by
  induction text with
  | nil => rfl
  | cons c text ih =>
      have hc := h c List.mem_cons_self
      simp only [List.map_cons, List.cons_append, Token.ofPieces, hc, ↓reduceIte]
      exact ih fun d hd => h d (List.mem_cons_of_mem _ hd)

/-- The pieces of runs are read as the tokens of the runs, if no white space follows white space. -/
theorem ofPieces_flatMap_pieces {runs : List Run} (hproper : ∀ run ∈ runs, run.Proper)
    (hapart : runs.IsChain MayMeet) (afterBlank : Bool)
    (hfirst : ∀ blank written, runs.head? = some (.plain blank written) →
      afterBlank = true → blank = false) :
    Token.ofPieces afterBlank (runs.flatMap pieces) = runs.flatMap tokens := by
  induction runs generalizing afterBlank with
  | nil => rfl
  | cons run runs ih =>
      have hlater := ih (fun other hother => hproper other (List.mem_cons_of_mem _ hother))
        hapart.tail
      rw [List.flatMap_cons, List.flatMap_cons]
      cases run with
      | marker m =>
          rw [← hlater false (by simp)]
          rfl
      | plain blank written =>
          obtain ⟨hne, hsort⟩ := hproper _ List.mem_cons_self
          cases blank with
          | false =>
              rw [pieces, ofPieces_literal (fun c hc => (hsort c hc).2) hne, hlater false (by simp)]
              rfl
          | true =>
              obtain ⟨c, others, rfl⟩ := List.exists_cons_of_ne_nil hne
              obtain rfl : afterBlank = false := by
                rw [← Bool.not_eq_true]
                intro hafter
                cases hfirst true (c :: others) rfl hafter
              have hc := (hsort c List.mem_cons_self).2
              simp only [pieces, List.map_cons, List.cons_append, Token.ofPieces, hc, ↓reduceIte,
                Bool.false_eq_true]
              rw [ofPieces_blanks fun d hd => (hsort d (List.mem_cons_of_mem _ hd)).2,
                hlater true ?_]
              · rfl
              · intro blank other hhead _
                obtain ⟨later, rfl⟩ := List.head?_eq_some_iff.mp hhead
                exact Bool.eq_false_iff.mpr (List.isChain_cons_cons.mp hapart).1.symm

/-- **Runs tell the tokens.**  The tokens that a query is read as are those of its runs. -/
theorem Cuts.ofPieces_scan_eq {runs : List Run} {text : List Char} (h : Cuts runs text) :
    Token.ofPieces false (Piece.scan text) = runs.flatMap tokens := by
  rw [h.scan_eq]
  exact ofPieces_flatMap_pieces h.proper h.apart false (by simp)

end Run

end StructuralSearch
