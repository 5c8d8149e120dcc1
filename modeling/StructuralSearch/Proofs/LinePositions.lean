import Mathlib.Data.List.DropRight
import StructuralSearch.ParseTree
import StructuralSearch.Text.LineIndex

/-!
# Lines and columns of byte offsets

The place behind some bytes is told by counting: its row is the number of line feeds among them, and
its column is the number of bytes behind the last one.  A line index does not count.  It keeps the
offsets at which the lines start and looks for the last one that is not too large.

The key local fact is `takeWhile_lineStartsIn`: the line starts up to an offset are those that the
bytes ahead of the offset have by themselves.  So what is ahead of an offset decides its position
(`positionAt_lineStarts`), and a parser that counts rows and columns in the same way reports the
positions of the line index: `Text.positions_count_line_feeds`.
-/

namespace StructuralSearch

namespace Text

/-- The bytes of a text in UTF-8. -/
def bytes (text : List Char) : List UInt8 :=
  text.flatMap String.utf8EncodeChar

/-- The byte that ends a line. -/
def lineFeed : UInt8 := 10

/-- The zero-based row of the place behind some bytes: the number of line feeds among them. -/
def rowBehind (ahead : List UInt8) : Nat :=
  ahead.count lineFeed

/-- The zero-based column of the place behind some bytes: the number of bytes since the last line feed,
or since the start. -/
def columnBehind (ahead : List UInt8) : Nat :=
  (ahead.rtakeWhile (· != lineFeed)).length

end Text

open Text

/-- A position comes before another one: in an earlier line, or in the same line and an earlier
column. -/
def Position.Before (a b : Position) : Prop :=
  a.line < b.line ∨ a.line = b.line ∧ a.column < b.column

instance Position.decidableBefore (a b : Position) : Decidable (a.Before b) :=
  inferInstanceAs (Decidable (a.line < b.line ∨ a.line = b.line ∧ a.column < b.column))

/-- The row and the column of a place are counted in a text: they are those of its offset. -/
structure TreePoint.CountedIn (text : List Char) (point : TreePoint) : Prop where
  offset_le : point.offset ≤ byteLength text
  row_eq : point.row = rowBehind ((bytes text).take point.offset)
  column_eq : point.column = columnBehind ((bytes text).take point.offset)

namespace Text

/-! ### Bytes -/

theorem bytes_cons (c : Char) (text : List Char) :
    bytes (c :: text) = String.utf8EncodeChar c ++ bytes text :=
  List.flatMap_cons

theorem bytes_append (a b : List Char) : bytes (a ++ b) = bytes a ++ bytes b :=
  List.flatMap_append

theorem length_bytes (text : List Char) : (bytes text).length = byteLength text := by
  induction text with
  | nil => rfl
  | cons c text ih =>
      rw [bytes_cons, List.length_append, String.length_utf8EncodeChar, ih, byteLength]

/-- A line feed is no part of any other character. -/
theorem lineFeed_mem_utf8EncodeChar_iff {c : Char} :
    lineFeed ∈ String.utf8EncodeChar c ↔ c = '\n' := by
  constructor
  · intro h
    have hbyte : ∃ byte ∈ String.utf8EncodeChar c, byte.toNat = 10 := ⟨lineFeed, h, rfl⟩
    have hcode : c.val.toNat = 10 := by
      -- every byte of a longer character is at least 128
      unfold String.utf8EncodeChar at hbyte
      dsimp only at hbyte
      split at hbyte
      · simp only [List.mem_singleton, exists_eq_left, UInt8.toNat_ofNat'] at hbyte
        omega
      · exfalso
        split at hbyte
        · simp only [List.mem_cons, List.not_mem_nil, or_false, exists_eq_or_imp, exists_eq_left,
            UInt8.toNat_ofNat'] at hbyte
          omega
        · split at hbyte <;>
          · simp only [List.mem_cons, List.not_mem_nil, or_false, exists_eq_or_imp, exists_eq_left,
              UInt8.toNat_ofNat'] at hbyte
            omega
    exact Char.ext (UInt32.toNat_inj.mp hcode)
  · rintro rfl
    decide

/-- The bytes of a text without line feeds hold none. -/
theorem lineFeed_not_mem_bytes {text : List Char} (h : '\n' ∉ text) : lineFeed ∉ bytes text := by
  intro hmem
  obtain ⟨c, hc, hbyte⟩ := List.mem_flatMap.mp hmem
  rw [lineFeed_mem_utf8EncodeChar_iff.mp hbyte] at hc
  exact h hc

/-! ### Rows and columns -/

variable (ahead more : List UInt8)

theorem rowBehind_append : rowBehind (ahead ++ more) = rowBehind ahead + rowBehind more :=
  List.count_append

/-- A line feed begins a new line. -/
theorem columnBehind_concat_lineFeed : columnBehind (ahead ++ [lineFeed]) = 0 := by
  rw [columnBehind, List.rtakeWhile_concat_neg _ _ _ (by simp)]
  rfl

/-- Any other byte stands in the line of the bytes ahead of it. -/
theorem columnBehind_concat {byte : UInt8} (h : byte ≠ lineFeed) :
    columnBehind (ahead ++ [byte]) = columnBehind ahead + 1 := by
  rw [columnBehind, List.rtakeWhile_concat_pos _ _ _ (by simp [h]), List.length_append]
  rfl

variable {more}

/-- Bytes without a line feed stand in the line of the bytes ahead of them. -/
theorem columnBehind_append (h : lineFeed ∉ more) :
    columnBehind (ahead ++ more) = columnBehind ahead + more.length := by
  induction more using List.reverseRecOn with
  | nil => simp
  | append_singleton more byte ih =>
      obtain ⟨hmore, hbyte⟩ := not_or.mp (List.mem_append.not.mp h)
      rw [← List.append_assoc, columnBehind_concat _ (List.ne_of_not_mem_cons hbyte).symm,
        ih hmore, List.length_append, List.length_singleton, Nat.add_assoc]

theorem columnBehind_le : columnBehind ahead ≤ ahead.length := by
  rw [columnBehind, List.rtakeWhile, List.length_reverse, ← @List.length_reverse _ ahead]
  exact (List.takeWhile_sublist _).length_le

/-! ### Line starts -/

variable {ahead}

/-- The offsets behind the line feeds among some bytes of which the first one stands at `offset`. -/
def lineStartsIn (offset : Nat) : List UInt8 → List Nat
  | [] => []
  | byte :: later =>
    if byte = lineFeed then (offset + 1) :: lineStartsIn (offset + 1) later
    else lineStartsIn (offset + 1) later

theorem lineStartsIn_append (offset : Nat) (a b : List UInt8) :
    lineStartsIn offset (a ++ b) = lineStartsIn offset a ++ lineStartsIn (offset + a.length) b := by
  induction a generalizing offset with
  | nil => rfl
  | cons byte a ih =>
      have hplace : offset + 1 + a.length = offset + (byte :: a).length := by
        rw [List.length_cons]
        omega
      rw [List.cons_append, lineStartsIn, lineStartsIn, ih, hplace]
      split <;> rfl

/-- Without line feeds no line starts. -/
theorem lineStartsIn_eq_nil (offset : Nat) (h : lineFeed ∉ ahead) : lineStartsIn offset ahead = [] := by
  induction ahead generalizing offset with
  | nil => rfl
  | cons byte ahead ih =>
      obtain ⟨hbyte, hlater⟩ := List.ne_and_not_mem_of_not_mem_cons h
      rw [lineStartsIn, if_neg hbyte.symm, ih _ hlater]

/-- The lines of a text start behind the line feeds among its bytes. -/
theorem lineStartsFrom_eq (offset : Nat) (text : List Char) :
    lineStartsFrom offset text = lineStartsIn offset (bytes text) := by
  induction text generalizing offset with
  | nil => rfl
  | cons c text ih =>
      rw [lineStartsFrom, bytes_cons, lineStartsIn_append, String.length_utf8EncodeChar]
      split
      · rename_i hfeed
        subst hfeed
        rw [ih]
        rfl
      · rename_i hother
        rw [lineStartsIn_eq_nil offset (mt lineFeed_mem_utf8EncodeChar_iff.mp hother), ih]
        rfl

/-- Lines start behind the first byte and not behind the end. -/
theorem bounds_of_mem_lineStartsIn {offset start : Nat} (h : start ∈ lineStartsIn offset ahead) :
    offset < start ∧ start ≤ offset + ahead.length := by
  induction ahead generalizing offset with
  | nil => exact absurd h List.not_mem_nil
  | cons byte ahead ih =>
      have hlater : start ∈ lineStartsIn (offset + 1) ahead →
          offset < start ∧ start ≤ offset + (byte :: ahead).length := by
        intro hmem
        have hbounds := ih hmem
        rw [List.length_cons]
        omega
      rw [lineStartsIn] at h
      split at h
      · rcases List.mem_cons.mp h with rfl | hmem
        · rw [List.length_cons]
          omega
        · exact hlater hmem
      · exact hlater h

/-- A line starts for each line feed. -/
theorem length_lineStartsIn (offset : Nat) : (lineStartsIn offset ahead).length = rowBehind ahead := by
  induction ahead generalizing offset with
  | nil => rfl
  | cons byte ahead ih =>
      rw [lineStartsIn, rowBehind, List.count_cons, ← rowBehind, ← ih (offset + 1)]
      split <;> rename_i hbyte <;> simp [hbyte]

/-- The last line starts as many bytes ahead as the column says. -/
theorem getLast?_lineStartsIn_add (ahead : List UInt8) :
    (lineStartsIn 0 ahead).getLast?.getD 0 + columnBehind ahead = ahead.length := by
  induction ahead using List.reverseRecOn with
  | nil => rfl
  | append_singleton ahead byte ih =>
      rw [lineStartsIn_append, Nat.zero_add, List.length_append, List.length_singleton]
      by_cases hbyte : byte = lineFeed
      · subst hbyte
        rw [columnBehind_concat_lineFeed, lineStartsIn, if_pos rfl, lineStartsIn]
        simp
      · rw [columnBehind_concat _ hbyte, lineStartsIn, if_neg hbyte, lineStartsIn, List.append_nil,
          ← Nat.add_assoc, ih]

/-- The lines of a text start one behind the other. -/
theorem pairwise_lineStarts (text : List Char) : (lineStarts text).Pairwise (· < ·) := by
  have hlater : ∀ offset (ahead : List UInt8), (lineStartsIn offset ahead).Pairwise (· < ·) := by
    intro offset ahead
    induction ahead generalizing offset with
    | nil => exact .nil
    | cons byte ahead ih =>
        rw [lineStartsIn]
        split
        · exact .cons (fun start hstart => (bounds_of_mem_lineStartsIn hstart).1) (ih _)
        · exact ih _
  rw [lineStarts, lineStartsFrom_eq]
  exact .cons (fun start hstart => (bounds_of_mem_lineStartsIn hstart).1) (hlater 0 _)

/-- **The lines up to an offset.**  Of the line starts of some bytes, those up to an offset are the line
starts of the bytes ahead of the offset. -/
theorem takeWhile_lineStartsIn (ahead behind : List UInt8) :
    (0 :: lineStartsIn 0 (ahead ++ behind)).takeWhile (· ≤ ahead.length) =
      0 :: lineStartsIn 0 ahead := by
  have hahead : ∀ start ∈ 0 :: lineStartsIn 0 ahead, decide (start ≤ ahead.length) = true := by
    intro start hstart
    rcases List.mem_cons.mp hstart with rfl | hmem
    · simp
    · have hbounds := bounds_of_mem_lineStartsIn hmem
      exact decide_eq_true (by omega)
  have hbehind : ∀ start ∈ lineStartsIn ahead.length behind,
      ¬ decide (start ≤ ahead.length) = true := by
    intro start hstart
    have hbounds := bounds_of_mem_lineStartsIn hstart
    rw [decide_eq_true_iff]
    omega
  rw [lineStartsIn_append, Nat.zero_add, ← List.cons_append,
    List.takeWhile_append_of_pos hahead,
    List.takeWhile_eq_nil_iff.mpr fun hl => hbehind _ (List.get_mem _ _), List.append_nil]

variable {text : List Char} {offset : Nat}

/-- The line starts up to an offset of a text. -/
theorem takeWhile_lineStarts (h : offset ≤ byteLength text) :
    (lineStarts text).takeWhile (· ≤ offset) = 0 :: lineStartsIn 0 ((bytes text).take offset) := by
  have hlength : ((bytes text).take offset).length = offset := by
    rw [List.length_take, length_bytes]
    exact Nat.min_eq_left h
  have hlines := takeWhile_lineStartsIn ((bytes text).take offset) ((bytes text).drop offset)
  rw [List.take_append_drop, hlength] at hlines
  rw [lineStarts, lineStartsFrom_eq, hlines]

/-- The last line start up to an offset is there, and it is as many bytes ahead of the offset as the
column says. -/
theorem exists_lineStart (h : offset ≤ byteLength text) :
    ∃ start, ((lineStarts text).takeWhile (· ≤ offset)).getLast? = some start ∧
      start + columnBehind ((bytes text).take offset) = offset := by
  refine ⟨_, by rw [takeWhile_lineStarts h, List.getLast?_cons], ?_⟩
  rw [getLast?_lineStartsIn_add, List.length_take, length_bytes]
  exact Nat.min_eq_left h

/-- **Positions by counting.**  The position of an offset is told by the bytes ahead of it. -/
theorem positionAt_lineStarts (h : offset ≤ byteLength text) :
    positionAt (lineStarts text) offset =
      { line := clampPosition (rowBehind ((bytes text).take offset) + 1)
        column := clampPosition (columnBehind ((bytes text).take offset) + 1)
        offset := clampPosition offset } := by
  obtain ⟨start, hstart, hcolumn⟩ := exists_lineStart h
  have hrow : ((lineStarts text).takeWhile (· ≤ offset)).length =
      rowBehind ((bytes text).take offset) + 1 := by
    rw [takeWhile_lineStarts h, List.length_cons, length_lineStartsIn]
  have hbytes : offset - start = columnBehind ((bytes text).take offset) := by omega
  simp only [positionAt, hstart, hrow, Option.getD_some, hbytes]
  rw [Nat.max_eq_left (by omega)]

/-- A place whose row and column are counted has the position of its offset. -/
theorem position_of_countedIn {point : TreePoint} (h : point.CountedIn text) :
    point.position = positionAt (lineStarts text) point.offset := by
  rw [positionAt_lineStarts h.offset_le, TreePoint.position, h.row_eq, h.column_eq]

/-- Rows and columns of a text whose offsets are 32-bit quantities are written as they are. -/
theorem positionAt_of_lt (hsize : byteLength text < positionLimit) (h : offset ≤ byteLength text) :
    positionAt (lineStarts text) offset =
      { line := rowBehind ((bytes text).take offset) + 1
        column := columnBehind ((bytes text).take offset) + 1
        offset } := by
  have hlength : ((bytes text).take offset).length ≤ offset := List.length_take_le _ _
  have hrow : rowBehind ((bytes text).take offset) ≤ ((bytes text).take offset).length :=
    List.count_le_length
  have hcolumn := columnBehind_le ((bytes text).take offset)
  have hclamp : ∀ n, n ≤ positionLimit → clampPosition n = n := fun n hn => Nat.min_eq_left hn
  rw [positionAt_lineStarts h, hclamp _ (by omega), hclamp _ (by omega), hclamp _ (by omega)]

/-- Positions come one behind the other as their offsets do. -/
theorem before_of_lt (hsize : byteLength text < positionLimit) {a b : Nat} (hlt : a < b)
    (hb : b ≤ byteLength text) :
    (positionAt (lineStarts text) a).Before (positionAt (lineStarts text) b) := by
  have hahead : (bytes text).take b =
      (bytes text).take a ++ ((bytes text).drop a).take (b - a) := by
    conv_lhs => rw [show b = a + (b - a) by omega]
    exact List.take_add
  have hlength : (((bytes text).drop a).take (b - a)).length = b - a := by
    rw [List.length_take, List.length_drop, length_bytes]
    omega
  rw [positionAt_of_lt hsize (by omega), positionAt_of_lt hsize hb, hahead]
  generalize (bytes text).take a = ahead at *
  generalize ((bytes text).drop a).take (b - a) = more at *
  simp only [Position.Before, rowBehind_append]
  by_cases hfeed : lineFeed ∈ more
  · have hrow : 0 < rowBehind more := List.count_pos_iff.mpr hfeed
    exact Or.inl (by omega)
  · have hrow : rowBehind more = 0 := List.count_eq_zero.mpr hfeed
    rw [columnBehind_append ahead hfeed]
    exact Or.inr ⟨by omega, by omega⟩

/-- **Lines and columns count.**  In a text whose lines, columns and offsets are 32-bit quantities, the
line of an offset is one more than the number of line feeds ahead of it and the column is one more than
the number of bytes since the last of them; the start of the line is found and does not lie behind the
offset.  So positions come one behind the other as their offsets do, and a parser that counts rows and
columns in this way gives a node the positions of its offsets. -/
theorem positions_count_line_feeds (source : String)
    (hsize : byteLength source.toList < positionLimit) :
    let position := positionAt (lineStarts source.toList)
    (lineStarts source.toList).Pairwise (· < ·) ∧
    (∀ offset ≤ byteLength source.toList,
      (∃ start, ((lineStarts source.toList).takeWhile (· ≤ offset)).getLast? = some start ∧
        start ≤ offset) ∧
      position offset =
        { line := rowBehind ((bytes source.toList).take offset) + 1
          column := columnBehind ((bytes source.toList).take offset) + 1
          offset }) ∧
    (∀ a b, a < b → b ≤ byteLength source.toList → (position a).Before (position b)) ∧
    (∀ tree : ParseTree, tree.start.CountedIn source.toList → tree.stop.CountedIn source.toList →
      tree.span = ⟨position tree.start.offset, position tree.stop.offset⟩) := by
  refine ⟨pairwise_lineStarts _, fun offset hoffset => ⟨?_, positionAt_of_lt hsize hoffset⟩,
    fun a b hlt hb => before_of_lt hsize hlt hb, fun tree hstart hstop => ?_⟩
  · obtain ⟨start, hstart, hcolumn⟩ := exists_lineStart hoffset
    exact ⟨start, hstart, by omega⟩
  · rw [ParseTree.span, position_of_countedIn hstart, position_of_countedIn hstop]

/-- In `é⏎⏎xy` the bytes of `é` share a line, the second line is empty, and `xy` is the third one. -/
theorem positions_count_two_line_feeds :
    let source := "é\n\nxy"
    let position := positionAt (lineStarts source.toList)
    let token : ParseTree :=
      { kind := "name", named := true, extra := false, isError := false, isMissing := false
        hasError := false, field := none, start := ⟨4, 2, 0⟩, stop := ⟨6, 2, 2⟩, children := [] }
    byteLength source.toList < positionLimit ∧
    position 1 = ⟨1, 2, 1⟩ ∧ position 3 = ⟨2, 1, 3⟩ ∧ position 6 = ⟨3, 3, 6⟩ ∧
    (position 3).Before (position 6) ∧ token.start.CountedIn source.toList ∧
    token.stop.CountedIn source.toList ∧ token.span = ⟨position 4, position 6⟩ := by
  intro source position token
  have hsize : byteLength source.toList < positionLimit := by decide
  have hstart : token.start.CountedIn source.toList := ⟨by decide, by decide, by decide⟩
  have hstop : token.stop.CountedIn source.toList := ⟨by decide, by decide, by decide⟩
  obtain ⟨-, hcounts, hbefore, hspan⟩ := positions_count_line_feeds source hsize
  refine ⟨hsize, ?_, ?_, ?_, hbefore 3 6 (by decide) (by decide), hstart, hstop,
    hspan token hstart hstop⟩
  · exact (hcounts 1 (by decide)).2.trans (by decide)
  · exact (hcounts 3 (by decide)).2.trans (by decide)
  · exact (hcounts 6 (by decide)).2.trans (by decide)

end Text

end StructuralSearch
