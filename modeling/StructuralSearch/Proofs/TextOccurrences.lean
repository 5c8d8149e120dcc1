import Mathlib.Data.List.TakeWhile
import StructuralSearch.Proofs.ExpressionMatches
import StructuralSearch.Proofs.PatternExpressions
import StructuralSearch.Proofs.QueryRuns
import StructuralSearch.Proofs.TextMatches

/-!
# What text queries find

A query stands for the stretches of a text that split into one piece for each of its runs
(`Run.StandsFor`).  Its source is a regular expression whose items take just these pieces
(`Run.mem_restsOfAll_flatMap_iff`).  So it is up to the library of regular expressions which stretches
are found.  What is used of it is the order of its matches, from left to right and the best one at each
place, for the expressions that it compiles (`RegexLibrary.LeftmostFirst`).

None of the stretches is empty, none begins before the one in front of it has ended, and as long as every
match has a character, each place where the query matches lies in a stretch that is found
(`Run.Cuts.occurrences`).  The main theorem, `TextSearch.matches_are_occurrences`, says so of all queries
of a search: the library refuses one of them, or each query has its occurrences.
-/

namespace StructuralSearch

open Text

/-- A stretch of a text, given by its byte offset and its characters, holds a place: it begins there or
before and ends behind it. -/
def HoldsPlace (stretch : Nat × List Char) (place : Nat) : Prop :=
  stretch.1 ≤ place ∧ place < stretch.1 + byteLength stretch.2

namespace Stretch

variable {text : List Char}

/-- Behind what stands in front of a stretch there is the stretch. -/
theorem drop_front (stretch : Stretch text) :
    text.drop stretch.front.length = stretch.code ++ stretch.back := by
  obtain ⟨front, code, back, rfl⟩ := stretch
  exact List.drop_left

/-- A stretch that has ended where another one begins, counted in characters, has done so in bytes. -/
theorem offset_add_le_of_range {stretch other : Stretch text}
    (h : stretch.range.1 + stretch.range.2 ≤ other.range.1) :
    stretch.offset + byteLength stretch.code ≤ other.offset := by
  have hfront : stretch.front ++ stretch.code <+: text :=
    ⟨stretch.back, by rw [List.append_assoc]; exact stretch.spelled⟩
  have hother : other.front <+: text := ⟨other.code ++ other.back, other.spelled⟩
  have hbytes := byteLength_le_of_isPrefix hfront hother (by rwa [List.length_append])
  rwa [byteLength_append] at hbytes

/-- A stretch that holds a place, counted in characters, holds it in bytes. -/
theorem holdsPlace_of_range {stretch : Stretch text} {front back : List Char}
    (htext : text = front ++ back) (hbegin : stretch.range.1 ≤ front.length)
    (hend : front.length < stretch.range.1 + stretch.range.2) :
    HoldsPlace (stretch.offset, stretch.code) (byteLength front) := by
  have hfront : stretch.front ++ stretch.code <+: text :=
    ⟨stretch.back, by rw [List.append_assoc]; exact stretch.spelled⟩
  have hplace : front <+: text := ⟨back, htext.symm⟩
  have hlength : front.length < (stretch.front ++ stretch.code).length := by
    rwa [List.length_append]
  have hinside : front <+: stretch.front ++ stretch.code :=
    List.prefix_of_prefix_length_le hplace hfront (Nat.le_of_lt hlength)
  have hbytes := byteLength_lt_of_isPrefix hinside hlength
  rw [byteLength_append] at hbytes
  have hfrom : stretch.front <+: text := ⟨stretch.code ++ stretch.back, stretch.spelled⟩
  exact ⟨byteLength_le_of_isPrefix hfrom hplace hbegin, hbytes⟩

end Stretch

/-- What a compiled expression finds in a text without the empty matches, each stretch as its byte offset
with its characters. -/
def Regex.stretches (regex : Regex) (text : List Char) : List (Nat × List Char) :=
  ((regex.find text).filter fun found => !found.code.isEmpty).map
    fun found => (found.offset, found.code)

/-- The stretches of an expression are what it finds, but for empty matches. -/
theorem Regex.mem_stretches_iff {regex : Regex} {text : List Char} {stretch : Nat × List Char} :
    stretch ∈ regex.stretches text ↔
      ∃ found ∈ regex.find text, found.code ≠ [] ∧ (found.offset, found.code) = stretch := by
  simp [stretches, and_assoc]

namespace Run

/-! ### What runs stand for -/

/-- What a run of a query stands for in a text. -/
def StandsFor : Run → List Char → Prop
  | plain false written, piece => piece = written
  | plain true _, piece => piece ≠ [] ∧ ∀ c ∈ piece, isBlank c = true
  | marker .identifier, piece => ∀ c ∈ piece, isWord c = true ∨ c = '$'
  | marker _, _ => True

/-- The stretches of a text that the runs of a query stand for, each as its byte offset with its
characters. -/
structure Occurrences (runs : List Run) (text : List Char) (found : List (Nat × List Char)) :
    Prop where
  /-- they stand in the text at their offsets, and they are not empty -/
  stands : ∀ stretch ∈ found, stretch.2 ≠ [] ∧
    ∃ front back, text = front ++ (stretch.2 ++ back) ∧ stretch.1 = byteLength front
  /-- they are listed from left to right and do not overlap -/
  apart : found.Pairwise fun a b => a.1 + byteLength a.2 ≤ b.1
  /-- each consists of pieces for the runs -/
  split : ∀ stretch ∈ found,
    ∃ pieces, List.Forall₂ StandsFor runs pieces ∧ stretch.2 = pieces.flatten
  /-- runs without markers stand for nothing outside of them -/
  complete : (∀ m, .marker m ∉ runs) → ∀ front pieces back,
    text = front ++ (pieces.flatten ++ back) → List.Forall₂ StandsFor runs pieces →
      ∃ stretch ∈ found, HoldsPlace stretch (byteLength front)

/-- The items that the tokens of a run are written as. -/
def items (run : Run) : List Item :=
  run.tokens.flatMap Token.items

/-- The items of a literal take what is written in it. -/
theorem mem_restsOfAll_literal_iff {written text rest : List Char} :
    rest ∈ Item.restsOfAll false ((written.map Token.literal).flatMap Token.items) text ↔
      text = written ++ rest := by
  induction written generalizing text with
  | nil => simp [Item.restsOfAll, eq_comm]
  | cons c written ih =>
      rw [List.map_cons, List.flatMap_cons, Token.items, List.singleton_append, Item.restsOfAll]
      cases text with
      | nil => simp [Item.rests]
      | cons d text =>
          by_cases hcd : c = d
          · subst hcd
            simp [Item.rests, Item.holds, CharClass.holds, ih]
          · simp [Item.rests, Item.holds, CharClass.holds, hcd, Ne.symm hcd]

/-- The items of white space take a run of it. -/
theorem mem_restsOfAll_blanks_iff {text rest : List Char} :
    rest ∈ Item.restsOfAll false Token.blanks.items text ↔
      ∃ piece, text = piece ++ rest ∧ piece ≠ [] ∧ ∀ c ∈ piece, isBlank c = true := by
  simp only [Item.mem_restsOfAll_iff, Token.items, exists_pieces_cons_iff,
    List.forall₂_nil_left_iff, Item.Takes, Item.holds, CharClass.holds, List.any_cons,
    List.any_nil, Bool.or_false]
  constructor
  · intro h
    obtain ⟨-, later, rfl, ⟨c, rfl, hc⟩, piece, -, rfl, hblank, -, rfl, rfl⟩ := h
    exact ⟨c :: piece, rfl, List.cons_ne_nil _ _, List.forall_mem_cons.mpr ⟨hc, hblank⟩⟩
  · intro h
    obtain ⟨piece, rfl, hne, hblank⟩ := h
    obtain ⟨c, piece, rfl⟩ := List.exists_cons_of_ne_nil hne
    obtain ⟨hc, hmore⟩ := List.forall_mem_cons.mp hblank
    exact ⟨[c], piece ++ rest, rfl, ⟨c, rfl, hc⟩, piece, rest, rfl, hmore, [], rfl, rfl⟩

/-- A single item leaves what stands behind a piece that it takes. -/
theorem mem_restsOfAll_singleton_iff {item : Item} {text rest : List Char} :
    rest ∈ Item.restsOfAll false [item] text ↔
      ∃ piece, text = piece ++ rest ∧ item.Takes false piece := by
  simp [Item.restsOfAll, Item.mem_rests_iff]

/-- The items of a run take what the run stands for. -/
theorem mem_restsOfAll_items_iff (run : Run) {text rest : List Char} :
    rest ∈ Item.restsOfAll false run.items text ↔
      ∃ piece, text = piece ++ rest ∧ run.StandsFor piece := by
  cases run with
  | marker m =>
      cases m with
      | identifier =>
          refine mem_restsOfAll_singleton_iff.trans ?_
          simp [Item.Takes, Item.holds, CharClass.holds, StandsFor, @eq_comm _ '$']
      | node =>
          refine mem_restsOfAll_singleton_iff.trans ?_
          simp [Item.Takes, Item.holds, CharClass.holds, StandsFor]
      | rest =>
          refine mem_restsOfAll_singleton_iff.trans ?_
          simp [Item.Takes, Item.holds, CharClass.holds, StandsFor]
  | plain blank written =>
      cases blank with
      | true => exact mem_restsOfAll_blanks_iff
      | false =>
          refine mem_restsOfAll_literal_iff.trans ?_
          simp [StandsFor]

/-- **Runs and their expression.**  The items of runs take pieces for the runs. -/
theorem mem_restsOfAll_flatMap_iff {runs : List Run} {text rest : List Char} :
    rest ∈ Item.restsOfAll false (runs.flatMap items) text ↔
      ∃ pieces, List.Forall₂ StandsFor runs pieces ∧ text = pieces.flatten ++ rest := by
  induction runs generalizing text with
  | nil => simp [Item.restsOfAll, eq_comm]
  | cons run runs ih =>
      rw [List.flatMap_cons, Item.restsOfAll_append, List.mem_flatMap, exists_pieces_cons_iff]
      simp only [mem_restsOfAll_items_iff, ih]
      constructor
      · intro h
        obtain ⟨later, ⟨piece, htext, hstands⟩, hmore⟩ := h
        exact ⟨piece, later, htext, hstands, hmore⟩
      · intro h
        obtain ⟨piece, later, htext, hstands, hmore⟩ := h
        exact ⟨later, ⟨piece, htext, hstands⟩, hmore⟩

/-- A run that is no marker stands for something. -/
theorem StandsFor.ne_nil {blank : Bool} {written piece : List Char}
    (h : (Run.plain blank written).StandsFor piece) (hproper : (Run.plain blank written).Proper) :
    piece ≠ [] := by
  cases blank with
  | true => exact h.1
  | false =>
      obtain rfl : piece = written := h
      exact hproper.1

/-- Runs that are no markers take at least a character. -/
theorem Cuts.not_mem_restsOfAll {runs : List Run} {query : List Char} (h : Cuts runs query)
    (hquery : query ≠ []) (hplain : ∀ m, .marker m ∉ runs) (text : List Char) :
    text ∉ Item.restsOfAll false (runs.flatMap items) text := by
  intro hmem
  obtain ⟨pieces, hpieces, htext⟩ := mem_restsOfAll_flatMap_iff.mp hmem
  have hempty : pieces.flatten = [] := List.append_left_eq_self.mp htext.symm
  cases runs with
  | nil => exact hquery h.spelled.symm
  | cons run runs =>
      obtain ⟨piece, others, hstands, -, rfl⟩ := List.forall₂_cons_left_iff.mp hpieces
      cases run with
      | marker m => exact hplain m List.mem_cons_self
      | plain blank written =>
          apply hstands.ne_nil (h.proper _ List.mem_cons_self)
          exact (List.append_eq_nil_iff.mp hempty).1

/-- **What a query finds.**  An expression with the items of the runs of a query, whose matches are the
leftmost-first ones, finds the stretches that the runs stand for. -/
theorem Cuts.occurrences {runs : List Run} {query : List Char} (h : Cuts runs query)
    (hquery : query ≠ []) {text : List Char} {regex : Regex}
    (hfind : (regex.find text).map Stretch.range =
      Expression.ranges ⟨false, runs.flatMap items⟩ text) :
    Occurrences runs text (regex.stretches text) where
  stands := by
    intro stretch hmem
    obtain ⟨found, -, hne, rfl⟩ := Regex.mem_stretches_iff.mp hmem
    exact ⟨hne, found.front, found.back, found.spelled.symm, rfl⟩
  apart := by
    have hranges := Expression.pairwise_scan 0 0 false
      (Expression.lengths ⟨false, runs.flatMap items⟩ text)
    rw [← Expression.ranges, ← hfind, List.pairwise_map] at hranges
    rw [Regex.stretches, List.pairwise_map]
    exact (hranges.filter _).imp Stretch.offset_add_le_of_range
  split := by
    intro stretch hmem
    obtain ⟨found, hfound, -, rfl⟩ := Regex.mem_stretches_iff.mp hmem
    have hrange : found.range ∈ Expression.ranges ⟨false, runs.flatMap items⟩ text := by
      rw [← hfind]
      exact List.mem_map_of_mem hfound
    obtain ⟨-, hlength⟩ := Expression.of_mem_ranges hrange
    obtain ⟨code, rest, hcode, hequal, hrest⟩ := Expression.exists_of_lengthAt _ hlength
    have hdrop : text.drop found.range.1 = found.code ++ found.back := found.drop_front
    rw [hdrop] at hcode hrest
    obtain ⟨rfl, rfl⟩ := List.append_inj hcode hequal.symm
    obtain ⟨pieces, hpieces, hsplit⟩ := mem_restsOfAll_flatMap_iff.mp hrest
    exact ⟨pieces, hpieces, List.append_cancel_right hsplit⟩
  complete := by
    intro hplain front pieces back htext hpieces
    have hmem : back ∈ Item.restsOfAll false (runs.flatMap items) (pieces.flatten ++ back) :=
      mem_restsOfAll_flatMap_iff.mpr ⟨pieces, hpieces, rfl⟩
    obtain ⟨length, hlength⟩ :=
      Expression.exists_lengthAt ⟨false, runs.flatMap items⟩ hmem
    have hle : front.length ≤ text.length := by rw [htext]; simp
    have hentry := Expression.lengths_getElem? ⟨false, runs.flatMap items⟩ text hle
    rw [htext, List.drop_left, hlength, ← htext] at hentry
    have hnonempty : some 0 ∉ Expression.lengths ⟨false, runs.flatMap items⟩ text := by
      intro hzero
      rw [Expression.lengths_eq_map] at hzero
      obtain ⟨place, -, hplace⟩ := List.mem_map.mp hzero
      obtain ⟨code, rest, hsplit, hempty, hrest⟩ := Expression.exists_of_lengthAt _ hplace
      obtain rfl := List.length_eq_zero_iff.mp hempty
      obtain rfl : place = rest := hsplit
      exact h.not_mem_restsOfAll hquery hplain place hrest
    obtain ⟨range, hrange, hbegin, hend⟩ :=
      Expression.exists_mem_scan 0 false hnonempty hentry (Nat.zero_le _)
    rw [← Expression.ranges, ← hfind] at hrange
    obtain ⟨found, hfound, rfl⟩ := List.mem_map.mp hrange
    rw [Nat.zero_add] at hbegin hend
    refine ⟨(found.offset, found.code), Regex.mem_stretches_iff.mpr ⟨found, hfound, ?_, rfl⟩,
      found.holdsPlace_of_range htext hbegin hend⟩
    intro hempty
    rw [Stretch.range, hempty] at hbegin hend
    simp only [List.length_nil] at hend
    omega

end Run

/-! ### Searches -/

/-- Trimming leaves nothing of a text exactly if it is white space. -/
theorem Text.trimWhile_eq_nil_iff {p : Char → Bool} {text : List Char} :
    trimWhile p text = [] ↔ ∀ c ∈ text, p c = true := by
  have hsplit : ∀ c ∈ text, c ∈ text.takeWhile p ∨ c ∈ text.dropWhile p := by
    intro c hc
    rwa [← List.mem_append, List.takeWhile_append_dropWhile]
  rw [trimWhile, dropEndWhile, List.reverse_eq_nil_iff, List.dropWhile_eq_nil_iff]
  simp only [List.mem_reverse]
  constructor
  · intro h c hc
    rcases hsplit c hc with hfront | hback
    · exact List.mem_takeWhile_imp hfront
    · exact h c hback
  · intro h c hc
    exact h c ((List.dropWhile_suffix p).subset hc)

/-- Trimming leaves something of a query exactly if it is not blank. -/
theorem Text.trim_eq_nil_iff {query : String} :
    (trim query).toList = [] ↔ isBlankText query = true := by
  rw [trim, String.toList_ofList, trimWhile_eq_nil_iff, isBlankText, List.all_eq_true]

/-- **What a query is read as.**  The tokens of a query that is not blank are those of its runs. -/
theorem TextPattern.parse_eq {query : String} {runs : List Run}
    (h : Run.Cuts runs (trim query).toList) (caseInsensitive : Bool) :
    parse query caseInsensitive =
      if isBlankText query then .error .emptyQuery
      else .ok ⟨caseInsensitive, runs.flatMap Run.tokens⟩ := by
  have htrim : trimWhile isBlank query.toList = (trim query).toList := by
    rw [trim, String.toList_ofList]
  rw [parse, htrim]
  simp only [h.ofPieces_scan_eq, List.isEmpty_iff, trim_eq_nil_iff]

/-- The expression of a query is that of its runs. -/
theorem TextPattern.expression_eq (runs : List Run) (caseInsensitive : Bool) :
    expression ⟨caseInsensitive, runs.flatMap Run.tokens⟩ =
      ⟨caseInsensitive, runs.flatMap Run.items⟩ := by
  rw [expression, List.flatMap_assoc]
  rfl

/-- A query is compiled if the library compiles the source of its pattern. -/
theorem TextPattern.compile_eq_ok_iff {library : RegexLibrary} {query : String}
    {caseInsensitive : Bool} {regex : Regex} :
    compile library query caseInsensitive = .ok regex ↔
      ∃ pattern, parse query caseInsensitive = .ok pattern ∧
        library.compile pattern.source = .ok regex := by
  rw [compile]
  cases parse query caseInsensitive with
  | error e => simp [bind, Except.bind]
  | ok pattern =>
      cases hcompile : library.compile pattern.source <;>
        simp [bind, Except.bind, Except.mapError, hcompile]

namespace TextSearch

section Compiling

variable {library : RegexLibrary} {queries : List String} {caseInsensitive : Bool} {start : Nat}

/-- No failure is reported exactly if all queries are compiled. -/
theorem failures_eq_nil_iff :
    (((queries.zipIdx start).map fun (query, index) =>
        (index, TextPattern.compile library query caseInsensitive)).filterMap
          fun (index, outcome) =>
      match outcome with
      | .error error => some (index, error)
      | .ok _ => none) = [] ↔
      ∀ query ∈ queries, ∃ regex,
        TextPattern.compile library query caseInsensitive = .ok regex := by
  induction queries generalizing start with
  | nil => simp
  | cons query queries ih =>
      rw [List.zipIdx_cons, List.map_cons, List.filterMap_cons]
      cases hcompile : TextPattern.compile library query caseInsensitive with
      | error error => simp [hcompile]
      | ok regex =>
          simp only [List.forall_mem_cons, hcompile, Except.ok.injEq, exists_eq', true_and]
          exact ih

/-- Queries that are all compiled give an expression each. -/
theorem forall₂_patterns
    (h : ∀ query ∈ queries, ∃ regex,
      TextPattern.compile library query caseInsensitive = .ok regex) :
    List.Forall₂
      (fun query regex => TextPattern.compile library query caseInsensitive = .ok regex) queries
      (((queries.zipIdx start).map fun (query, index) =>
        (index, TextPattern.compile library query caseInsensitive)).filterMap
          fun (_, outcome) => outcome.toOption) := by
  induction queries generalizing start with
  | nil => exact .nil
  | cons query queries ih =>
      obtain ⟨regex, hregex⟩ := h query List.mem_cons_self
      rw [List.zipIdx_cons, List.map_cons, List.filterMap_cons]
      simp only [hregex, Except.toOption]
      exact .cons hregex (ih fun other hother => h other (List.mem_cons_of_mem _ hother))

/-- The queries of a search are all compiled, or one fails and the search is refused. -/
theorem compile_cases (library : RegexLibrary) (queries : List String) (caseInsensitive : Bool) :
    (∃ patterns, compile library queries caseInsensitive = .ok ⟨patterns⟩ ∧
      List.Forall₂
        (fun query regex => TextPattern.compile library query caseInsensitive = .ok regex)
        queries patterns) ∨
    (∃ failures, compile library queries caseInsensitive = .error failures ∧
      ∃ query ∈ queries, ∃ error,
        TextPattern.compile library query caseInsensitive = .error error) := by
  by_cases h : ∀ query ∈ queries, ∃ regex,
      TextPattern.compile library query caseInsensitive = .ok regex
  · exact Or.inl ⟨_, if_pos (List.isEmpty_iff.mpr (failures_eq_nil_iff.mpr h)), forall₂_patterns h⟩
  · right
    refine ⟨_, if_neg fun hempty => h (failures_eq_nil_iff.mp (List.isEmpty_iff.mp hempty)), ?_⟩
    by_contra hnone
    apply h
    intro query hquery
    cases hcompile : TextPattern.compile library query caseInsensitive with
    | ok regex => exact ⟨regex, rfl⟩
    | error error => exact absurd ⟨query, hquery, error, hcompile⟩ hnone

end Compiling

/-- **Matches mean what the queries say.**  Let a library find leftmost-first matches without overlap.
A search with case for queries that are not blank is refused only if the library does not compile the
source of one of them.  Otherwise each query has its own matches, one query after the other: they are the
stretches of the source for which the runs of the query stand. -/
theorem matches_are_occurrences {library : RegexLibrary} (hlibrary : library.LeftmostFirst)
    {queries : List String} (hqueries : ∀ query ∈ queries, isBlankText query = false)
    (path source : String) :
    (∃ failures, compile library queries false = .error failures ∧ ∃ query ∈ queries,
      ∃ pattern reason, TextPattern.parse query false = .ok pattern ∧
        library.compile pattern.source = .error reason) ∨
    ∃ search found, compile library queries false = .ok search ∧
      search.find path source = found.flatMap (List.map (matchAt path source)) ∧
      List.Forall₂ (fun query stretches =>
        (∃ runs, Run.Cuts runs (trim query).toList) ∧
        ∀ runs, Run.Cuts runs (trim query).toList → Run.Occurrences runs source.toList stretches)
        queries found := by
  rcases compile_cases library queries false with
    ⟨patterns, hok, hcompiled⟩ | ⟨failures, hfails, hsome⟩
  · right
    refine ⟨⟨patterns⟩, patterns.map (·.stretches source.toList), hok, ?_, ?_⟩
    · simp only [find, List.flatMap_map, Regex.stretches, List.map_map]
      rfl
    · rw [List.forall₂_map_right_iff]
      refine hcompiled.imp fun query regex hregex => ⟨Run.exists_cuts _, fun runs hruns => ?_⟩
      obtain ⟨pattern, hpattern, hsource⟩ := TextPattern.compile_eq_ok_iff.mp hregex
      rw [TextPattern.parse_eq hruns] at hpattern
      split at hpattern
      · cases hpattern
      · rename_i hblank
        obtain rfl := Except.ok.inj hpattern
        refine hruns.occurrences (mt trim_eq_nil_iff.mp hblank) ?_
        have hread := TextPattern.read?_source ⟨false, runs.flatMap Run.tokens⟩
        rw [TextPattern.expression_eq] at hread
        exact hlibrary _ _ _ hread hsource source.toList
  · left
    obtain ⟨query, hquery, error, herror⟩ := hsome
    obtain ⟨runs, hruns⟩ := Run.exists_cuts (trim query).toList
    have hpattern := TextPattern.parse_eq hruns false
    rw [hqueries query hquery, if_neg Bool.false_ne_true] at hpattern
    cases hcompile : library.compile (TextPattern.source ⟨false, runs.flatMap Run.tokens⟩) with
    | error reason => exact ⟨failures, hfails, query, hquery, _, reason, hpattern, hcompile⟩
    | ok regex =>
        rw [TextPattern.compile_eq_ok_iff.mpr ⟨_, hpattern, hcompile⟩] at herror
        cases herror

/-- The query `a b` finds a stretch with the place behind `x ` in a text where `a` and `b` stand in two
lines there. -/
theorem words_found :
    let library := RegexLibrary.concatenations
    let query := "a b"
    let source := "x a\n b"
    library.LeftmostFirst ∧ isBlankText query = false ∧
      ∃ search stretches, compile library [query] false = .ok search ∧
        search.find "a.txt" source = List.map (matchAt "a.txt" source) stretches ∧
        ∃ stretch ∈ stretches, HoldsPlace stretch 2 := by
  intro library query source
  have hlibrary : library.LeftmostFirst := RegexLibrary.leftmostFirst_concatenations
  have hblank : isBlankText query = false := by decide +kernel
  have hqueries : ∀ other ∈ [query], isBlankText other = false := by
    intro other hother
    rwa [List.mem_singleton.mp hother]
  have hcuts : Run.Cuts [.plain false ['a'], .plain true [' '], .plain false ['b']]
      (trim query).toList := by decide +kernel
  refine ⟨hlibrary, hblank, ?_⟩
  rcases matches_are_occurrences hlibrary hqueries "a.txt" source with
    ⟨failures, hfails, -⟩ | ⟨search, found, hok, hfind, hfound⟩
  · have hread : (compile library [query] false).isOk = true := by decide +kernel
    rw [hfails] at hread
    cases hread
  · obtain ⟨stretches, others, ⟨-, hstretches⟩, hothers, rfl⟩ := List.forall₂_cons_left_iff.mp hfound
    obtain rfl := List.forall₂_nil_left_iff.mp hothers
    refine ⟨search, stretches, hok, by rw [hfind]; simp, ?_⟩
    have hpieces : List.Forall₂ Run.StandsFor
        [.plain false ['a'], .plain true [' '], .plain false ['b']] [['a'], ['\n', ' '], ['b']] :=
      .cons rfl (.cons ⟨by decide, List.all_eq_true.mp (by decide)⟩ (.cons rfl .nil))
    have hsource : source.toList = ['x', ' '] ++ (['a', '\n', ' ', 'b'] ++ []) := by decide +kernel
    exact (hstretches _ hcuts).complete (by simp) ['x', ' '] [['a'], ['\n', ' '], ['b']] [] hsource
      hpieces

end TextSearch

end StructuralSearch
