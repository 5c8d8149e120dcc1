import Mathlib.Algebra.BigOperators.Group.List.Basic
import Mathlib.Algebra.GroupWithZero.Nat
import StructuralSearch.Proofs.FirstFaults
import StructuralSearch.Proofs.LinePositions
import StructuralSearch.Proofs.Placeholders
import StructuralSearch.Proofs.QueryReports

/-!
# Where the fault of a query is reported

A query that cannot be parsed is reported with the place of its first fault.  The parser reads the
encoded query, so this is a place in the encoded query, in which the placeholders are longer than the
markers for which they stand.

Both texts are written with the same pieces (`Profile.pieces`).  A line feed is always a plain piece,
so a place is in the same line of both; its columns are the lengths of the pieces behind the last line
feed (`columnBehind_flatMap`).  The reported column is that of the query as it was written and the
growth of the markers that stand ahead in the line: `Query.fault_reported_behind_markers`.
-/

namespace StructuralSearch

open Text

namespace Profile

variable (profile : Profile)

/-- The pieces with which a query is encoded: a marker where a placeholder comes in, and a plain
character everywhere else. -/
def pieces (text : List Char) : List Piece :=
  match profile.codec with
  | some codec => codec.settle (Piece.scan text)
  | none => text.map .plain

/-- The characters by which a piece is encoded. -/
def code (piece : Piece) : List Char :=
  match profile.codec with
  | some codec => codec.code piece
  | none => piece.chars

/-- The number of bytes by which the encoded form of a piece is longer. -/
def growth (piece : Piece) : Nat :=
  byteLength (profile.code piece) - byteLength piece.chars

/-- The pieces written out are the text. -/
theorem flatMap_chars_pieces (text : List Char) :
    (profile.pieces text).flatMap Piece.chars = text := by
  unfold pieces
  split
  · rw [Codec.flatMap_chars_settle, Piece.flatMap_chars_scan]
  · simp [List.flatMap_map, Piece.chars]

/-- The pieces encoded are the encoded text. -/
theorem flatMap_code_pieces (text : String) :
    (profile.pieces text.toList).flatMap profile.code = (profile.encodeQuery text).toList := by
  unfold pieces code encodeQuery
  cases profile.codec with
  | none => simp [List.flatMap_map, Piece.chars]
  | some codec =>
      dsimp only
      rw [Codec.encode, String.toList_ofList, Codec.encodePieces_eq_flatMap]

/-- A plain character stays. -/
theorem code_plain (c : Char) : profile.code (.plain c) = [c] := by
  unfold code
  split <;> rfl

/-- In the known languages a placeholder is longer than its marker and holds no line feed. -/
theorem placeholder_ofLanguage {language : Language} {codec : Codec}
    (h : (ofLanguage language).codec = some codec) (m : Marker) :
    byteLength m.text.toList < byteLength (codec.placeholder m).toList ∧
      '\n' ∉ (codec.placeholder m).toList := by
  cases language with
  | typescript => cases h
  | python => cases h; cases m <;> decide
  | csharp => cases h; cases m <;> decide
  | html => cases h; cases m <;> decide

variable {language : Language}

/-- Encoded markers stand in one line. -/
theorem lineFeed_not_mem_code (m : Marker) : '\n' ∉ (ofLanguage language).code (.marker m) := by
  unfold code
  cases hcodec : (ofLanguage language).codec with
  | none => cases m <;> decide
  | some codec => exact (placeholder_ofLanguage hcodec m).2

/-- A piece is encoded by as many bytes as it has and those by which it grows. -/
theorem byteLength_code (piece : Piece) :
    byteLength ((ofLanguage language).code piece) =
      byteLength piece.chars + (ofLanguage language).growth piece := by
  suffices h : byteLength piece.chars ≤ byteLength ((ofLanguage language).code piece) by
    unfold growth
    omega
  cases piece with
  | plain c => rw [code_plain, Piece.chars]
  | marker m =>
      unfold code
      cases hcodec : (ofLanguage language).codec with
      | none => exact Nat.le_refl _
      | some codec => exact Nat.le_of_lt (placeholder_ofLanguage hcodec m).1

/-- Of the pieces of a query the markers grow, and nothing else. -/
theorem growth_eq_zero_iff {text : List Char} {piece : Piece}
    (h : piece ∈ (ofLanguage language).pieces text) :
    (ofLanguage language).growth piece = 0 ↔ ∀ m, piece ≠ .marker m := by
  cases piece with
  | plain c => simp [growth, code_plain, Piece.chars]
  | marker m =>
      refine iff_of_false (fun hzero => ?_) fun hnone => hnone m rfl
      unfold pieces at h
      unfold growth code at hzero
      cases hcodec : (ofLanguage language).codec with
      | none => simp [hcodec] at h
      | some codec =>
          have hlonger := (placeholder_ofLanguage hcodec m).1
          rw [hcodec] at hzero
          change byteLength (codec.placeholder m).toList - byteLength m.text.toList = 0 at hzero
          omega

end Profile

/-- The pieces behind the last line feed. -/
def Piece.onLastLine (pieces : List Piece) : List Piece :=
  pieces.rtakeWhile (· != .plain '\n')

/-- The bytes ahead of a piece are those of the pieces ahead of it. -/
theorem take_bytes_flatMap (write : Piece → List Char) (front back : List Piece) :
    (bytes ((front ++ back).flatMap write)).take (byteLength (front.flatMap write)) =
      bytes (front.flatMap write) := by
  rw [List.flatMap_append, bytes_append, List.take_left' (length_bytes _)]

section Lines

/-! ### Lines of pieces -/

variable {write : Piece → List Char} (hplain : ∀ c, write (.plain c) = [c])
  (hmarker : ∀ m, '\n' ∉ write (.marker m))
include hplain hmarker

/-- Pieces other than a line feed are written without one. -/
theorem lineFeed_not_mem_write {piece : Piece} (h : piece ≠ .plain '\n') : '\n' ∉ write piece := by
  cases piece with
  | plain c =>
      rw [hplain, List.mem_singleton]
      exact fun heq => h (by rw [heq])
  | marker m => exact hmarker m

/-- However pieces are written, each line feed among them begins a line. -/
theorem rowBehind_flatMap (pieces : List Piece) :
    rowBehind (bytes (pieces.flatMap write)) = pieces.count (.plain '\n') := by
  induction pieces with
  | nil => rfl
  | cons piece pieces ih =>
      rw [List.flatMap_cons, bytes_append, rowBehind_append, ih, List.count_cons]
      by_cases hfeed : piece = .plain '\n'
      · subst hfeed
        rw [hplain, if_pos (beq_self_eq_true _), Nat.add_comm]
        rfl
      · have hnone : rowBehind (bytes (write piece)) = 0 :=
          List.count_eq_zero.mpr
            (lineFeed_not_mem_bytes (lineFeed_not_mem_write hplain hmarker hfeed))
        rw [hnone, if_neg (by simpa using hfeed)]
        omega

/-- However pieces are written, the column behind them is the length of those on the last line. -/
theorem columnBehind_flatMap (pieces : List Piece) :
    columnBehind (bytes (pieces.flatMap write)) =
      ((Piece.onLastLine pieces).map fun piece => byteLength (write piece)).sum := by
  induction pieces using List.reverseRecOn with
  | nil => rfl
  | append_singleton pieces piece ih =>
      rw [List.flatMap_append, bytes_append, List.flatMap_singleton, Piece.onLastLine]
      by_cases hfeed : piece = .plain '\n'
      · subst hfeed
        rw [hplain, List.rtakeWhile_concat_neg _ _ _ (by simp)]
        exact columnBehind_concat_lineFeed _
      · rw [List.rtakeWhile_concat_pos _ _ _ (by simpa using hfeed), ← Piece.onLastLine,
          List.map_append, List.sum_append, ← ih, columnBehind_append _
            (lineFeed_not_mem_bytes (lineFeed_not_mem_write hplain hmarker hfeed)), length_bytes]
        simp

end Lines

/-- No marker holds a line feed. -/
theorem Piece.lineFeed_not_mem_chars (m : Marker) : '\n' ∉ (Piece.marker m).chars := by
  cases m <;> decide

namespace Profile

variable {language : Language} (front : List Piece)

/-- Encoding leaves everything in its line. -/
theorem rowBehind_code :
    rowBehind (bytes (front.flatMap (ofLanguage language).code)) =
      rowBehind (bytes (front.flatMap Piece.chars)) := by
  rw [rowBehind_flatMap (code_plain _) lineFeed_not_mem_code,
    rowBehind_flatMap (fun _ => rfl) Piece.lineFeed_not_mem_chars]

/-- **Columns of encoded queries.**  A column grows by what the markers ahead of it in the line grow. -/
theorem columnBehind_code :
    columnBehind (bytes (front.flatMap (ofLanguage language).code)) =
      columnBehind (bytes (front.flatMap Piece.chars)) +
        ((Piece.onLastLine front).map (ofLanguage language).growth).sum := by
  rw [columnBehind_flatMap (code_plain _) lineFeed_not_mem_code,
    columnBehind_flatMap (fun _ => rfl) Piece.lineFeed_not_mem_chars, ← List.sum_map_add]
  exact congrArg List.sum (List.map_congr_left fun piece _ => byteLength_code piece)

variable {front}

/-- **Places in encoded queries.**  Where a piece begins in the encoded query, or at the end, the row is
that of the piece in the query as it was written, and the column is that of the piece and what the
markers ahead in the line grow. -/
theorem row_column_of_countedIn {text : String} {back : List Piece} {point : TreePoint}
    (hpieces : (ofLanguage language).pieces text.toList = front ++ back)
    (hcounted : point.CountedIn ((ofLanguage language).encodeQuery text).toList)
    (hplace : point.offset = byteLength (front.flatMap (ofLanguage language).code)) :
    let ahead := (bytes text.toList).take (byteLength (front.flatMap Piece.chars))
    point.row = rowBehind ahead ∧
      point.column = columnBehind ahead +
        ((Piece.onLastLine front).map (ofLanguage language).growth).sum := by
  intro ahead
  have hahead : ahead = bytes (front.flatMap Piece.chars) := by
    have hchars := take_bytes_flatMap Piece.chars front back
    rwa [← hpieces, flatMap_chars_pieces] at hchars
  have hencoded : (bytes ((ofLanguage language).encodeQuery text).toList).take point.offset =
      bytes (front.flatMap (ofLanguage language).code) := by
    have hcode := take_bytes_flatMap (ofLanguage language).code front back
    rwa [← hpieces, flatMap_code_pieces, ← hplace] at hcode
  rw [hcounted.row_eq, hcounted.column_eq, hencoded, rowBehind_code, columnBehind_code, hahead]
  exact ⟨rfl, rfl⟩

/-- Nothing grows on a line exactly if there is no marker on it. -/
theorem sum_growth_eq_zero_iff {text : List Char}
    (h : ∀ piece ∈ front, piece ∈ (ofLanguage language).pieces text) :
    ((Piece.onLastLine front).map (ofLanguage language).growth).sum = 0 ↔
      ∀ m, Piece.marker m ∉ Piece.onLastLine front := by
  have hsub : ∀ piece ∈ Piece.onLastLine front, piece ∈ (ofLanguage language).pieces text :=
    fun piece hpiece => h piece ((List.rtakeWhile_suffix _ _).subset hpiece)
  rw [List.sum_eq_zero_iff_forall_eq_nat, List.forall_mem_map]
  constructor
  · intro hzero m hmem
    exact (growth_eq_zero_iff (hsub _ hmem)).mp (hzero _ hmem) m rfl
  · intro hnone piece hmem
    refine (growth_eq_zero_iff (hsub _ hmem)).mpr fun m hm => ?_
    rw [hm] at hmem
    exact hnone m hmem

end Profile

namespace Query

variable {grammar : Grammar} {texts : List String} {index : Nat} {text : String}

/-- A query whose encoded form cannot be parsed fails for this reason. -/
theorem compile_of_parse_error (hwritten : isBlankText text = false) {e : SearchError}
    (hparse : grammar.parse (grammar.profile.encodeQuery text) = .error e) :
    compile grammar index text = .error e := by
  unfold compile
  rw [hwritten, hparse]
  rfl

/-- A query that fails has exactly one record, and this says why it fails. -/
theorem mem_errors_compileAll_iff (htext : texts[index]? = some text) {e : SearchError}
    (hfails : compile grammar index text = .error e) (record : ErrorRecord) :
    record ∈ (compileAll grammar texts).errors ∧ record.index? = some index ↔
      record = errorRecord index e := by
  have haccounts := compileAll_accounts grammar texts
  have honly : ∀ other ∈ (compileAll grammar texts).errors, other.index? = some index →
      other = errorRecord index e := by
    intro other hother hindex
    obtain ⟨place, found, error, hfound, hfailed, rfl⟩ := haccounts.failed other hother
    obtain rfl := Option.some.inj hindex
    rw [htext] at hfound
    obtain rfl := Option.some.inj hfound
    rw [hfails] at hfailed
    rw [Except.error.inj hfailed]
  constructor
  · intro h
    exact honly record h.1 h.2
  · rintro rfl
    refine ⟨?_, rfl⟩
    have hrange : index ∈ List.range texts.length :=
      List.mem_range.mpr (List.getElem?_eq_some_iff.mp htext).1
    rcases List.mem_append.mp (haccounts.split.mem_iff.mpr hrange) with hquery | herror
    · exfalso
      obtain ⟨query, hmem, rfl⟩ := List.mem_map.mp hquery
      obtain ⟨found, hfound, hcompiled⟩ := haccounts.compiled query hmem
      rw [htext] at hfound
      obtain rfl := Option.some.inj hfound
      rw [hfails] at hcompiled
      cases hcompiled
    · obtain ⟨other, hmem, hindex⟩ := List.mem_filterMap.mp herror
      rw [← honly other hmem hindex]
      exact hmem

/-- **Faults are placed in the encoded query.**  Let the first fault of an encoded query stand where
one of the pieces begins, or at the end.  Then the query has one record.  Its line is that of the piece
in the query as it was written.  Its column is that of the piece and the bytes by which the markers ahead
in the line grow; so it is the column of the piece exactly if no marker that was encoded stands ahead in
the line. -/
theorem fault_reported_behind_markers {language : Language}
    (hprofile : grammar.profile = Profile.ofLanguage language) (htext : texts[index]? = some text)
    (hwritten : isBlankText text = false) {tree fault : ParseTree}
    (hparse : grammar.parser (grammar.profile.encodeQuery text) = some tree)
    (hfault : tree.firstFault? = some fault)
    (hcounted : fault.start.CountedIn (grammar.profile.encodeQuery text).toList)
    {front back : List Piece} (hpieces : grammar.profile.pieces text.toList = front ++ back)
    (hplace : fault.start.offset = byteLength (front.flatMap grammar.profile.code)) :
    let ahead := (bytes text.toList).take (byteLength (front.flatMap Piece.chars))
    let line := rowBehind ahead + 1
    let column := columnBehind ahead + 1
    let growth := ((Piece.onLastLine front).map grammar.profile.growth).sum
    (∀ record, record ∈ (compileAll grammar texts).errors ∧ record.index? = some index ↔
      record = .query index fault.faultMessage (some (clampPosition line))
        (some (clampPosition (column + growth)))) ∧
    (byteLength (grammar.profile.encodeQuery text).toList < positionLimit →
      (clampPosition (column + growth) = column ↔ ∀ m, Piece.marker m ∉ Piece.onLastLine front)) := by
  rw [hprofile] at hcounted hpieces hplace ⊢
  intro ahead line column growth
  obtain ⟨hrow, hcolumn⟩ := Profile.row_column_of_countedIn hpieces hcounted hplace
  have hline : fault.start.row + 1 = line := congrArg (· + 1) hrow
  have hgrown : fault.start.column + 1 = column + growth := by
    rw [hcolumn]
    exact Nat.add_right_comm _ growth 1
  constructor
  · intro record
    have hfails := Grammar.parse_of_firstFault?_eq_some hparse hfault
    rw [mem_errors_compileAll_iff htext (compile_of_parse_error hwritten hfails), hline, hgrown]
    rfl
  · intro hsize
    have hfits : column + growth ≤ positionLimit := by
      have hle := columnBehind_le
        ((bytes ((Profile.ofLanguage language).encodeQuery text).toList).take fault.start.offset)
      have hlength := List.length_take_le fault.start.offset
        (bytes ((Profile.ofLanguage language).encodeQuery text).toList)
      have hend := hcounted.offset_le
      rw [← hgrown, hcounted.column_eq]
      omega
    have hmem : ∀ piece ∈ front, piece ∈ (Profile.ofLanguage language).pieces text.toList := by
      intro piece hpiece
      rw [hpieces]
      exact List.mem_append_left back hpiece
    rw [clampPosition, Nat.min_eq_left hfits, Nat.add_eq_left]
    exact Profile.sum_growth_eq_zero_iff hmem

end Query

/-! ### A query with a word too much -/

namespace CatchClause

/-- A query in which the word `w$` stands where a filter would have to begin. -/
def query : String := "try { A(); } catch ($$$) w$ (e.X) { B(); } finally { C(); }"

/-- The word in the encoded query, which cannot be read. -/
def unreadWord : ParseTree where
  kind := "ERROR"
  named := true
  extra := true
  isError := true
  isMissing := false
  hasError := true
  field := none
  start := ⟨31, 0, 31⟩
  stop := ⟨41, 0, 41⟩
  children := []

/-- The tree of the encoded query, without what is not at fault. -/
def program : ParseTree where
  kind := "compilation_unit"
  named := true
  extra := false
  isError := false
  isMissing := false
  hasError := true
  field := none
  start := ⟨0, 0, 0⟩
  stop := ⟨73, 0, 73⟩
  children := [unreadWord]

def grammar : Grammar where
  profile := .csharp
  layout := ⟨[]⟩
  parser := fun _ => some program

/-- The pieces of the query. -/
def pieces : List Piece := grammar.profile.pieces query.toList

/-- The fault stands where the word begins, behind 23 pieces. -/
theorem counted_unreadWord :
    unreadWord.start.CountedIn (grammar.profile.encodeQuery query).toList ∧
      unreadWord.start.offset = byteLength ((pieces.take 23).flatMap grammar.profile.code) := by
  constructor
  · exact ⟨by decide +kernel, by decide +kernel, by decide +kernel⟩
  · decide +kernel

end CatchClause

open CatchClause in
/-- The word is reported in column 32, six columns behind its own. -/
theorem Query.word_reported_behind_marker :
    grammar.profile = Profile.ofLanguage .csharp ∧ isBlankText query = false ∧
    grammar.parser (grammar.profile.encodeQuery query) = some program ∧
    program.firstFault? = some unreadWord ∧
    unreadWord.start.CountedIn (grammar.profile.encodeQuery query).toList ∧
    grammar.profile.pieces query.toList = pieces.take 23 ++ pieces.drop 23 ∧
    unreadWord.start.offset = byteLength ((pieces.take 23).flatMap grammar.profile.code) ∧
    columnBehind ((bytes query.toList).take
      (byteLength ((pieces.take 23).flatMap Piece.chars))) + 1 = 26 ∧
    ((Piece.onLastLine (pieces.take 23)).map grammar.profile.growth).sum = 6 ∧
    .query 0 "Parse error at 1:32-1:42" (some 1) (some 32) ∈
      (Query.compileAll grammar [query]).errors := by
  have hprofile : grammar.profile = Profile.ofLanguage .csharp := rfl
  have hwritten : isBlankText query = false := by decide +kernel
  have hparse : grammar.parser (grammar.profile.encodeQuery query) = some program := rfl
  have hfault : program.firstFault? = some unreadWord := rfl
  have hpieces : grammar.profile.pieces query.toList = pieces.take 23 ++ pieces.drop 23 :=
    (List.take_append_drop 23 pieces).symm
  have htext : [query][0]? = some query := rfl
  have hreported := (Query.fault_reported_behind_markers hprofile htext hwritten hparse hfault
    counted_unreadWord.1 hpieces counted_unreadWord.2).1
  refine ⟨hprofile, hwritten, hparse, hfault, counted_unreadWord.1, hpieces, counted_unreadWord.2,
    by decide +kernel, by decide +kernel, ?_⟩
  exact ((hreported _).mpr (by decide +kernel)).1

open CatchClause in
/-- A fault may be reported in a column in which it does not stand: the word begins in column 26 of the
query, and the record says column 32. -/
theorem Query.word_reported_elsewhere :
    grammar.profile.encodeQuery query =
      "try { A(); } catch (a_x_3_x_a) wa_x_1_x_a (e.X) { B(); } finally { C(); }" ∧
    grammar.parser (grammar.profile.encodeQuery query) = some program ∧
    program.firstFault? = some unreadWord ∧
    unreadWord.start.CountedIn (grammar.profile.encodeQuery query).toList ∧
    grammar.profile.pieces query.toList = pieces.take 23 ++ .plain 'w' :: pieces.drop 24 ∧
    unreadWord.start.offset = byteLength ((pieces.take 23).flatMap grammar.profile.code) ∧
    positionAt (lineStarts query.toList) (byteLength ((pieces.take 23).flatMap Piece.chars)) =
      ⟨1, 26, 25⟩ ∧
    (Query.compileAll grammar [query]).errors =
      [.query 0 "Parse error at 1:32-1:42" (some 1) (some 32)] := by
  refine ⟨by decide +kernel, rfl, rfl, counted_unreadWord.1, by decide +kernel,
    counted_unreadWord.2, by decide +kernel, by decide +kernel⟩

end StructuralSearch
