import Mathlib.Data.List.Forall2
import Mathlib.Data.List.Infix
import StructuralSearch.Regex.Rows

/-!
# What expressions match

An item takes a piece of the text, and the items of an expression take one piece each, one behind the
other.  The rests that they leave are listed in the order of what they like best, but which rests there
are is told without this order (`Item.mem_restsOfAll_iff`).

The rows find the best one.  The local fact is `Item.row_eq`, one item more: what an item likes best at a
place is what it takes there and then the best it can do at the next place, or the other way round.  So
matching by rows comes to the matches as they are specified, and the library that does it is one of which
everything is known: `RegexLibrary.leftmostFirst_concatenations`.
-/

namespace StructuralSearch

/-- A text that splits into pieces up to a rest splits into the first piece and what is split on. -/
theorem exists_pieces_cons_iff {β : Type} {takes : β → List Char → Prop} {first : β} {others : List β}
    {text rest : List Char} :
    (∃ pieces, List.Forall₂ takes (first :: others) pieces ∧ text = pieces.flatten ++ rest) ↔
      ∃ piece later, text = piece ++ later ∧ takes first piece ∧
        ∃ pieces, List.Forall₂ takes others pieces ∧ later = pieces.flatten ++ rest := by
  constructor
  · intro h
    obtain ⟨pieces, hpieces, rfl⟩ := h
    obtain ⟨piece, more, htakes, hmore, rfl⟩ := List.forall₂_cons_left_iff.mp hpieces
    exact ⟨piece, more.flatten ++ rest, by simp, htakes, more, hmore, rfl⟩
  · intro h
    obtain ⟨piece, later, rfl, htakes, more, hmore, rfl⟩ := h
    exact ⟨piece :: more, .cons htakes hmore, by simp⟩

namespace Item

variable {caseInsensitive : Bool} {item : Item} {items : List Item} {text rest : List Char}

/-- What an item may stand for. -/
def Takes (caseInsensitive : Bool) : Item → List Char → Prop
  | once set, piece => ∃ c, piece = [c] ∧ (once set).holds caseInsensitive c = true
  | repeated set greedy, piece =>
    ∀ c ∈ piece, (repeated set greedy).holds caseInsensitive c = true

/-! ### The rests -/

/-- A repeated set takes no character, or one and then more. -/
theorem mem_rests_repeated_cons_iff {set : List CharClass} {greedy : Bool} {c : Char} :
    rest ∈ (repeated set greedy).rests caseInsensitive (c :: text) ↔ rest = c :: text ∨
      ((repeated set greedy).holds caseInsensitive c = true ∧
        rest ∈ (repeated set greedy).rests caseInsensitive text) := by
  rw [rests]
  cases greedy <;> split <;> simp_all [or_comm]

/-- An item leaves what stands behind a piece that it takes. -/
theorem mem_rests_iff : rest ∈ item.rests caseInsensitive text ↔
    ∃ piece, text = piece ++ rest ∧ item.Takes caseInsensitive piece := by
  cases item with
  | once set =>
      cases text with
      | nil => simp [rests, Takes]
      | cons c text =>
          rw [rests]
          constructor
          · intro h
            split at h
            · rename_i hc
              obtain rfl := List.mem_singleton.mp h
              exact ⟨[c], rfl, c, rfl, hc⟩
            · cases h
          · intro h
            obtain ⟨piece, htext, d, rfl, hd⟩ := h
            obtain ⟨rfl, rfl⟩ := List.cons.inj htext
            simp [hd]
  | repeated set greedy =>
      induction text with
      | nil =>
          constructor
          · intro h
            obtain rfl := List.mem_singleton.mp h
            exact ⟨[], rfl, by simp [Takes]⟩
          · intro h
            obtain ⟨piece, htext, -⟩ := h
            obtain ⟨-, rfl⟩ := List.append_eq_nil_iff.mp htext.symm
            exact List.mem_singleton_self _
      | cons c text ih =>
          rw [mem_rests_repeated_cons_iff, ih]
          constructor
          · intro h
            rcases h with rfl | ⟨hc, piece, rfl, htakes⟩
            · exact ⟨[], rfl, by simp [Takes]⟩
            · exact ⟨c :: piece, rfl, List.forall_mem_cons.mpr ⟨hc, htakes⟩⟩
          · intro h
            obtain ⟨piece, htext, htakes⟩ := h
            cases piece with
            | nil => exact Or.inl htext.symm
            | cons d piece =>
                obtain ⟨rfl, rfl⟩ := List.cons.inj htext
                obtain ⟨hc, hmore⟩ := List.forall_mem_cons.mp htakes
                exact Or.inr ⟨hc, piece, rfl, hmore⟩

/-- **The rests of items.**  Items leave what stands behind pieces for them. -/
theorem mem_restsOfAll_iff : rest ∈ restsOfAll caseInsensitive items text ↔
    ∃ pieces, List.Forall₂ (Takes caseInsensitive) items pieces ∧ text = pieces.flatten ++ rest := by
  induction items generalizing text with
  | nil => simp [restsOfAll, eq_comm]
  | cons item items ih =>
      rw [restsOfAll, List.mem_flatMap, exists_pieces_cons_iff]
      simp only [mem_rests_iff, ih]
      constructor
      · intro h
        obtain ⟨later, ⟨piece, htext, htakes⟩, hmore⟩ := h
        exact ⟨piece, later, htext, htakes, hmore⟩
      · intro h
        obtain ⟨piece, later, htext, htakes, hmore⟩ := h
        exact ⟨later, ⟨piece, htext, htakes⟩, hmore⟩

/-- Items one after the other leave what the later ones leave of what the first ones leave. -/
theorem restsOfAll_append (front back : List Item) (text : List Char) :
    restsOfAll caseInsensitive (front ++ back) text =
      (restsOfAll caseInsensitive front text).flatMap (restsOfAll caseInsensitive back) := by
  induction front generalizing text with
  | nil => simp [restsOfAll]
  | cons item front ih =>
      have hlater : restsOfAll caseInsensitive (front ++ back) = fun later =>
          (restsOfAll caseInsensitive front later).flatMap (restsOfAll caseInsensitive back) :=
        funext ih
      rw [List.cons_append, restsOfAll, restsOfAll, List.flatMap_assoc, hlater]

/-- What is left stands at the end of the text. -/
theorem exists_code_of_mem_restsOfAll (h : rest ∈ restsOfAll caseInsensitive items text) :
    ∃ code, text = code ++ rest := by
  obtain ⟨pieces, -, htext⟩ := mem_restsOfAll_iff.mp h
  exact ⟨pieces.flatten, htext⟩

/-! ### The rows -/

/-- The length of what items leave of a text if they get what they like best. -/
def leftAt (caseInsensitive : Bool) (items : List Item) (text : List Char) : Option Nat :=
  (restsOfAll caseInsensitive items text).head?.map List.length

/-- A set that is taken once has the next character, and then it is up to the other items. -/
theorem leftAt_once_cons (set : List CharClass) (c : Char) :
    leftAt caseInsensitive (once set :: items) (c :: text) =
      if (once set).holds caseInsensitive c then leftAt caseInsensitive items text else none := by
  by_cases hc : (once set).holds caseInsensitive c = true <;>
    simp [leftAt, restsOfAll, rests, hc]

/-- A repeated set has one character more or none more, whichever it tries first. -/
theorem leftAt_repeated_cons (set : List CharClass) (greedy : Bool) (c : Char) :
    let here := leftAt caseInsensitive items (c :: text)
    let more :=
      if (repeated set greedy).holds caseInsensitive c then
        leftAt caseInsensitive (repeated set greedy :: items) text
      else none
    leftAt caseInsensitive (repeated set greedy :: items) (c :: text) =
      if greedy then more.or here else here.or more := by
  by_cases hc : (repeated set greedy).holds caseInsensitive c = true <;> cases greedy <;>
    simp [leftAt, restsOfAll, rests, hc, List.head?_append, Option.map_or]

/-- The first entry of a row belongs to the whole text. -/
theorem head?_map_tails {β : Type} (f : List Char → Option β) (text : List Char) :
    (text.tails.map f).head?.getD none = f text := by
  cases text <;> rfl

/-- **One item more.**  From what items leave at each place, the row of an item in front of them is what
all of them leave there.  The induction is on the text; at its last place the row begins. -/
theorem row_eq (item : Item) (items : List Item) (text : List Char) :
    item.row caseInsensitive text (text.tails.map (leftAt caseInsensitive items)) =
      text.tails.map (leftAt caseInsensitive (item :: items)) := by
  induction text with
  | nil =>
      cases item with
      | once set => rfl
      | repeated set greedy => simp [row, leftAt, restsOfAll, rests]
  | cons c text ih =>
      simp only [List.tails_cons, List.map_cons]
      rw [row.eq_def]
      dsimp only
      rw [ih, head?_map_tails, head?_map_tails]
      refine congrArg (· :: _) ?_
      cases item with
      | once set => exact (leftAt_once_cons set c).symm
      | repeated set greedy => exact (leftAt_repeated_cons set greedy c).symm

end Item

namespace Expression

variable (expression : Expression)

/-- The lengths of the suffixes are those of the tails. -/
theorem suffixLengths_eq_map (text : List Char) : suffixLengths text = text.tails.map List.length := by
  induction text with
  | nil => rfl
  | cons c text ih =>
      rw [suffixLengths, ih, List.tails, List.map_cons]
      cases text <;> rfl

/-- The lengths of the matches are those at the tails. -/
theorem lengths_eq_map (text : List Char) :
    expression.lengths text = text.tails.map expression.lengthAt := by
  induction text with
  | nil => rfl
  | cons c text ih => rw [lengths, ih, List.tails, List.map_cons]

/-- **Rows are right.**  The row has what the items leave at each place.  The induction is on the items,
from the last one to the first. -/
theorem matchRow_eq (text : List Char) : expression.matchRow text =
    text.tails.map (Item.leftAt expression.caseInsensitive expression.items) := by
  unfold matchRow
  induction expression.items with
  | nil =>
      rw [suffixLengths_eq_map, List.map_map]
      rfl
  | cons item items ih => rw [List.foldr_cons, ih, Item.row_eq]

/-- The row of lengths has the matches as they are specified. -/
theorem takenRow_eq (text : List Char) : expression.takenRow text = expression.lengths text := by
  rw [takenRow, suffixLengths_eq_map, matchRow_eq, lengths_eq_map, List.zipWith_map,
    List.zipWith_self]
  simp only [Item.leftAt, Option.map_map]
  rfl

/-- The match at the front of a text is something that its items leave a rest behind. -/
theorem exists_of_lengthAt {text : List Char} {length : Nat}
    (h : expression.lengthAt text = some length) :
    ∃ code rest, text = code ++ rest ∧ code.length = length ∧
      rest ∈ Item.restsOfAll expression.caseInsensitive expression.items text := by
  obtain ⟨rest, hrest, rfl⟩ := Option.map_eq_some_iff.mp h
  have hmem := List.mem_of_head? hrest
  obtain ⟨code, rfl⟩ := Item.exists_code_of_mem_restsOfAll hmem
  exact ⟨code, rest, rfl, by simp, hmem⟩

/-- A text has a match at its front as soon as its items leave some rest of it. -/
theorem exists_lengthAt {text rest : List Char}
    (h : rest ∈ Item.restsOfAll expression.caseInsensitive expression.items text) :
    ∃ length, expression.lengthAt text = some length := by
  obtain ⟨best, others, hrests⟩ := List.exists_cons_of_ne_nil (List.ne_nil_of_mem h)
  exact ⟨text.length - best.length, by rw [lengthAt, hrests]; rfl⟩

/-- The lengths are those at the places of the text. -/
theorem lengths_getElem? (text : List Char) {place : Nat} (h : place ≤ text.length) :
    (expression.lengths text)[place]? = some (expression.lengthAt (text.drop place)) := by
  have hlt : place < text.tails.length := by rw [List.length_tails]; omega
  rw [lengths_eq_map, List.getElem?_map, List.getElem?_eq_getElem hlt, List.getElem_tails]
  rfl

/-! ### The scan -/

section Scan

variable {place skip : Nat} {ended : Bool} {row : List (Option Nat)} {found : Nat × Nat}

/-- What is found is an entry of the row, and it is not among those that are skipped. -/
theorem exists_of_mem_scan (h : found ∈ scan place skip ended row) :
    ∃ index, found.1 = place + index ∧ skip ≤ index ∧ row[index]? = some (some found.2) := by
  have hlater : ∀ {place skip less : Nat} {first : Option Nat} {row : List (Option Nat)},
      less ≤ skip + 1 →
      (∃ index, found.1 = place + 1 + index ∧ skip ≤ index ∧ row[index]? = some (some found.2)) →
      ∃ index, found.1 = place + index ∧ less ≤ index ∧
        (first :: row)[index]? = some (some found.2) := by
    intro place skip less first row hless hmore
    obtain ⟨index, hplace, hskip, hentry⟩ := hmore
    exact ⟨index + 1, by omega, by omega, hentry⟩
  fun_induction scan place skip ended row with
  | case1 => cases h
  | case2 place ended length row skip ih => exact hlater (Nat.le_refl _) (ih h)
  | case3 place ended row ih => exact hlater (Nat.zero_le _) (ih h)
  | case4 place row ih => exact hlater (Nat.zero_le _) (ih h)
  | case5 place ended row hended ih =>
      rcases List.mem_cons.mp h with rfl | hmem
      · exact ⟨0, rfl, Nat.le_refl 0, rfl⟩
      · exact hlater (Nat.zero_le _) (ih hmem)
  | case6 place ended row length ih =>
      rcases List.mem_cons.mp h with rfl | hmem
      · exact ⟨0, rfl, Nat.zero_le _, rfl⟩
      · exact hlater (Nat.zero_le _) (ih hmem)

/-- **Matches do not overlap.**  Of two matches the first one ends where the second one begins, or before.
-/
theorem pairwise_scan (place skip : Nat) (ended : Bool) (row : List (Option Nat)) :
    (scan place skip ended row).Pairwise fun a b => a.1 + a.2 ≤ b.1 := by
  fun_induction scan place skip ended row with
  | case1 => exact .nil
  | case2 place ended length row skip ih => exact ih
  | case3 place ended row ih => exact ih
  | case4 place row ih => exact ih
  | case5 place ended row hended ih =>
      refine .cons (fun found hfound => ?_) ih
      obtain ⟨index, hplace, -, -⟩ := exists_of_mem_scan hfound
      omega
  | case6 place ended row length ih =>
      refine .cons (fun found hfound => ?_) ih
      obtain ⟨index, hplace, hskip, -⟩ := exists_of_mem_scan hfound
      omega

/-- **No match is missed.**  If no entry is an empty match, then a place with a match lies in a match that
is found, unless it is skipped. -/
theorem exists_mem_scan (place : Nat) (ended : Bool) (hnonempty : some 0 ∉ row)
    {index length : Nat} (hentry : row[index]? = some (some length))
    (hskip : skip ≤ index) :
    ∃ found ∈ scan place skip ended row,
      found.1 ≤ place + index ∧ place + index < found.1 + found.2 := by
  have hlater : ∀ {place index : Nat} {list : List (Nat × Nat)},
      (∃ found ∈ list, found.1 ≤ place + 1 + index ∧ place + 1 + index < found.1 + found.2) →
      ∃ found ∈ list, found.1 ≤ place + (index + 1) ∧ place + (index + 1) < found.1 + found.2 := by
    intro place index list hmore
    obtain ⟨found, hfound, hholds⟩ := hmore
    exact ⟨found, hfound, by omega⟩
  fun_induction scan place skip ended row generalizing index with
  | case1 => simp at hentry
  | case2 place ended first row skip ih =>
      cases index with
      | zero => omega
      | succ index =>
          exact hlater (ih (fun h => hnonempty (List.mem_cons_of_mem _ h)) hentry (by omega))
  | case3 place ended row ih =>
      cases index with
      | zero => simp at hentry
      | succ index =>
          exact hlater (ih (fun h => hnonempty (List.mem_cons_of_mem _ h)) hentry (Nat.zero_le _))
  | case4 place row ih => exact absurd List.mem_cons_self hnonempty
  | case5 place ended row hended ih => exact absurd List.mem_cons_self hnonempty
  | case6 place ended row first ih =>
      by_cases hinside : index ≤ first
      · exact ⟨(place, first + 1), List.mem_cons_self, by simp only; omega, by simp only; omega⟩
      · cases index with
        | zero => omega
        | succ index =>
            obtain ⟨found, hfound, hholds⟩ :=
              hlater (ih (fun h => hnonempty (List.mem_cons_of_mem _ h)) hentry (by omega))
            exact ⟨found, List.mem_cons_of_mem _ hfound, hholds⟩

end Scan

/-- What an expression finds in a text is a match at its place. -/
theorem of_mem_ranges {expression : Expression} {text : List Char} {range : Nat × Nat}
    (h : range ∈ expression.ranges text) :
    range.1 ≤ text.length ∧ expression.lengthAt (text.drop range.1) = some range.2 := by
  obtain ⟨index, hplace, -, hentry⟩ := exists_of_mem_scan h
  obtain rfl : range.1 = index := by omega
  have hlt := (List.getElem?_eq_some_iff.mp hentry).1
  rw [lengths_eq_map, List.length_map, List.length_tails] at hlt
  have hle : range.1 ≤ text.length := by omega
  rw [lengths_getElem? expression text hle] at hentry
  exact ⟨hle, Option.some.inj hentry⟩

end Expression

/-- The range that a stretch is made from is its own, if the text goes so far. -/
theorem Stretch.range_ofRange {text : List Char} {range : Nat × Nat}
    (h : range.1 + range.2 ≤ text.length) : (ofRange text range).range = range := by
  refine Prod.ext ?_ ?_
  · simp only [Stretch.range, ofRange, List.length_take]
    omega
  · simp only [Stretch.range, ofRange, List.length_take, List.length_drop]
    omega

/-- **A library of rows.**  Matching by rows finds the leftmost-first matches. -/
theorem RegexLibrary.leftmostFirst_concatenations : concatenations.LeftmostFirst := by
  intro source expression regex hread hcompile text
  simp only [concatenations, hread] at hcompile
  split at hcompile
  · obtain rfl := Except.ok.inj hcompile
    have hfind : expression.find text = (expression.ranges text).map (Stretch.ofRange text) := by
      rw [Expression.find, Expression.takenRow_eq]
      rfl
    have hrange : ∀ range ∈ expression.ranges text,
        (Stretch.ofRange text range).range = range := by
      intro range hrange
      obtain ⟨hplace, hlength⟩ := Expression.of_mem_ranges hrange
      obtain ⟨code, rest, htext, hcode, -⟩ := expression.exists_of_lengthAt hlength
      have hlengths := congrArg List.length htext
      rw [List.length_drop, List.length_append] at hlengths
      exact Stretch.range_ofRange (by omega)
    change (expression.find text).map Stretch.range = expression.ranges text
    rw [hfind, List.map_map]
    exact (List.map_congr_left hrange).trans (List.map_id _)
  · cases hcompile

end StructuralSearch
