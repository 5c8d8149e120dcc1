import StructuralSearch.Proofs.QueryOrder

/-!
# Matches quote the source

A match carries offsets and a text, its code.  In a comparison of trees the code is cut out of the
source at the offsets, and a cut that fails gives an empty code without a word.  So it takes an
argument that the code of a match is what stands in the source between its offsets.

The offsets are those of two parts of the parse tree, as a found span covers two nodes.  What has to
be known is that the parts lie in the source (`ParseTree.LiesIn`): their offsets are in order, and are
boundaries between characters.  The span that covers two of them then lies in the source as well,
whichever of the two comes first (`Span.LiesIn.cover`), so that no cut fails.

* `Search.matches_quote_source`: every match of a search quotes the source, and no match in text mode
  is empty.
-/

namespace StructuralSearch

namespace Text

/-! ### Boundaries between characters -/

/-- An offset is a boundary of a text: it stands between two characters, or at an end. -/
def IsBoundary (offset : Nat) (text : List Char) : Prop :=
  ∃ front back, text = front ++ back ∧ byteLength front = offset

/-- A text is cut behind any of its beginnings. -/
theorem splitAtByte?_append (front back : List Char) :
    splitAtByte? (byteLength front) (front ++ back) = some (front, back) := by
  induction front with
  | nil => cases back <;> rfl
  | cons c front ih =>
      have hpos := Char.utf8Size_pos c
      obtain ⟨n, hn⟩ := Nat.exists_eq_succ_of_ne_zero
        (show c.utf8Size + byteLength front ≠ 0 by omega)
      have hfits : c.utf8Size ≤ n + 1 := by omega
      have hrest : n + 1 - c.utf8Size = byteLength front := by omega
      rw [byteLength, hn, List.cons_append, splitAtByte?, if_pos hfits, hrest, ih]
      · rfl
      · exact Nat.succ_ne_zero n

/-- The boundaries of a text are the offsets at which it can be cut. -/
theorem isSome_splitAtByte?_iff {offset : Nat} {text : List Char} :
    (splitAtByte? offset text).isSome ↔ IsBoundary offset text := by
  constructor
  · intro h
    obtain ⟨⟨front, back⟩, hcut⟩ := Option.isSome_iff_exists.mp h
    obtain ⟨htext, hfront⟩ := splitAtByte?_eq_some hcut
    exact ⟨front, back, htext, hfront⟩
  · rintro ⟨front, back, rfl, rfl⟩
    rw [splitAtByte?_append]
    rfl

instance decidableIsBoundary (offset : Nat) (text : List Char) : Decidable (IsBoundary offset text) :=
  decidable_of_iff _ isSome_splitAtByte?_iff

/-- No boundary lies behind the end. -/
theorem IsBoundary.le {offset : Nat} {text : List Char} (h : IsBoundary offset text) :
    offset ≤ byteLength text := by
  obtain ⟨front, back, rfl, rfl⟩ := h
  rw [byteLength_append]
  exact Nat.le_add_right _ _

/-- Between two boundaries there is a piece of the text. -/
theorem exists_piece {start stop : Nat} {text : List Char} (hstart : IsBoundary start text)
    (hstop : IsBoundary stop text) (hle : start ≤ stop) :
    ∃ front piece back, text = front ++ (piece ++ back) ∧ byteLength front = start ∧
      byteLength (front ++ piece) = stop := by
  obtain ⟨front, rest, htext, rfl⟩ := hstart
  obtain ⟨longer, back, rfl, rfl⟩ := hstop
  rcases List.append_eq_append_iff.mp htext with ⟨piece, rfl, rfl⟩ | ⟨piece, rfl, rfl⟩
  · -- the first boundary is not the later one, so `piece` has no bytes
    rw [byteLength_append] at hle
    have hsame : byteLength (longer ++ piece) = byteLength longer := by
      rw [byteLength_append]
      omega
    exact ⟨longer ++ piece, [], rest, by simp, rfl, by rw [List.append_nil, hsame]⟩
  · exact ⟨front, piece, back, by simp, rfl, rfl⟩

/-- A piece is what is cut out between its offsets. -/
theorem sliceBytes_of_piece {source : String} {front piece back : List Char}
    (h : source.toList = front ++ (piece ++ back)) :
    sliceBytes (byteLength front) (byteLength (front ++ piece)) source = String.ofList piece := by
  have hle : byteLength front ≤ byteLength front + byteLength piece := Nat.le_add_right _ _
  rw [sliceBytes, sliceBytes?, byteLength_append, if_pos hle, h, Nat.add_sub_cancel_left]
  simp only [splitAtByte?_append, bind, Option.bind, pure, Option.getD_some]

end Text

open Text

/-! ### Matches and the text between their offsets -/

/-- A match quotes a source: its offsets are in order, they lie in the source, and the code is what
stands between them. -/
structure Match.Quotes (found : Match) (source : String) : Prop where
  ordered : found.start.offset ≤ found.stop.offset
  inside : found.stop.offset ≤ byteLength source.toList
  code : ∃ front back, source.toList = front ++ (found.code.toList ++ back) ∧
    byteLength front = found.start.offset ∧
    byteLength (front ++ found.code.toList) = found.stop.offset

/-- A match quotes the source if its code is a piece of the source that stands at its offsets. -/
theorem Match.quotes_of_piece {found : Match} {source : String} {front back : List Char}
    (htext : source.toList = front ++ (found.code.toList ++ back))
    (hstart : byteLength front = found.start.offset)
    (hstop : byteLength (front ++ found.code.toList) = found.stop.offset) :
    found.Quotes source where
  ordered := by
    rw [← hstart, ← hstop, byteLength_append]
    exact Nat.le_add_right _ _
  inside := by
    rw [← hstop, htext, ← List.append_assoc, byteLength_append _ back]
    exact Nat.le_add_right _ _
  code := ⟨front, back, htext, hstart, hstop⟩

/-! ### Spans that lie in a text -/

/-- The offsets of a span are in order, and they are boundaries of a text. -/
structure Span.LiesIn (text : List Char) (span : Span) : Prop where
  ordered : span.start.offset ≤ span.stop.offset
  start : IsBoundary span.start.offset text
  stop : IsBoundary span.stop.offset text

/-- The span over two spans in a text lies in the text. -/
theorem Span.LiesIn.cover {text : List Char} {a b : Span} (ha : a.LiesIn text) (hb : b.LiesIn text) :
    (a.cover b).LiesIn text where
  ordered := by
    have hordered := ha.ordered
    rw [cover_start_offset, cover_stop_offset]
    omega
  start := by
    rw [cover_start_offset]
    rcases min_choice a.start.offset b.start.offset with heq | heq
    · rw [heq]
      exact ha.start
    · rw [heq]
      exact hb.start
  stop := by
    rw [cover_stop_offset]
    rcases max_choice a.stop.offset b.stop.offset with heq | heq
    · rw [heq]
      exact ha.stop
    · rw [heq]
      exact hb.stop

/-- The match of a span that lies in the source quotes it. -/
theorem Engine.quotes_matchOfSpan {path source : String} {span : Span}
    (h : span.LiesIn source.toList) : (Engine.matchOfSpan path source span).Quotes source := by
  obtain ⟨front, piece, back, htext, hstart, hstop⟩ := exists_piece h.start h.stop h.ordered
  have hcode : (Engine.matchOfSpan path source span).code = String.ofList piece := by
    rw [← sliceBytes_of_piece htext, hstart, hstop]
    rfl
  have hpiece : source.toList =
      front ++ ((Engine.matchOfSpan path source span).code.toList ++ back) := by
    rw [hcode, String.toList_ofList, htext]
  refine Match.quotes_of_piece hpiece hstart ?_
  rw [hcode, String.toList_ofList, hstop]
  rfl

/-- The parts of a parse tree lie in a text: their offsets are in order, and they are boundaries of the
text. -/
def ParseTree.LiesIn (text : List Char) (tree : ParseTree) : Prop :=
  ∀ part ∈ tree.parts, part.start.offset ≤ part.stop.offset ∧
    IsBoundary part.start.offset text ∧ IsBoundary part.stop.offset text

instance ParseTree.decidableLiesIn (text : List Char) (tree : ParseTree) :
    Decidable (tree.LiesIn text) :=
  inferInstanceAs (Decidable (∀ part ∈ tree.parts, part.start.offset ≤ part.stop.offset ∧
    IsBoundary part.start.offset text ∧ IsBoundary part.stop.offset text))

/-- An offset in a text whose offsets are 32-bit quantities is written as it is. -/
theorem clampPosition_of_isBoundary {offset : Nat} {text : List Char}
    (hfits : byteLength text ≤ positionLimit) (h : IsBoundary offset text) :
    clampPosition offset = offset :=
  Nat.min_eq_left (Nat.le_trans h.le hfits)

/-- The spans of the nodes that are built from a tree in the text lie in the text. -/
theorem TreeBuilder.liesIn_of_mem_build {builder : TreeBuilder} {tree : ParseTree} {node : Node}
    {text : List Char} (hfits : byteLength text ≤ positionLimit) (htree : tree.LiesIn text)
    (h : node ∈ (builder.build tree).walk) : node.span.LiesIn text := by
  obtain ⟨part, hpart, hspan⟩ := builder.exists_part_of_mem_build h
  obtain ⟨hordered, hstart, hstop⟩ := htree part hpart
  have hfrom : node.span.start.offset = part.start.offset := by
    rw [hspan]
    exact clampPosition_of_isBoundary hfits hstart
  have hto : node.span.stop.offset = part.stop.offset := by
    rw [hspan]
    exact clampPosition_of_isBoundary hfits hstop
  exact ⟨by rw [hfrom, hto]; exact hordered, by rw [hfrom]; exact hstart, by rw [hto]; exact hstop⟩

/-! ### Whole searches -/

/-- What a file must be like for its matches to be quotations: its offsets are 32-bit quantities, and if
trees are compared, the parts of its parse tree lie in its text. -/
structure SourceFile.HoldsItsTree (settings : Settings) (grammar : Grammar) (file : SourceFile) :
    Prop where
  fits : ∀ source, file.content = .ok source → byteLength source.toList ≤ positionLimit
  tree : settings.mode.isStructural = true → ∀ source tree, file.content = .ok source →
    grammar.parser source = some tree → tree.LiesIn source.toList

/-- A match in text mode quotes the source and is not empty. -/
theorem TextSearch.quotes_of_mem_find {search : TextSearch} {path source : String} {found : Match}
    (hfits : byteLength source.toList ≤ positionLimit) (h : found ∈ search.find path source) :
    found.Quotes source ∧ found.code ≠ "" := by
  obtain ⟨regex, -, ⟨front, code, back, hspelled⟩, -, hcode, rfl⟩ := mem_find_iff.mp h
  have htext := hspelled.symm
  have hstart : IsBoundary (byteLength front) source.toList := ⟨front, code ++ back, htext, rfl⟩
  have hstop : IsBoundary (byteLength front + byteLength code) source.toList :=
    ⟨front ++ code, back, by rw [htext, List.append_assoc], byteLength_append front code⟩
  constructor
  · rw [← String.toList_ofList (l := code)] at htext
    refine Match.quotes_of_piece htext ?_ ?_
    · exact (clampPosition_of_isBoundary hfits hstart).symm
    · change byteLength (front ++ (String.ofList code).toList) =
        clampPosition (byteLength front + byteLength code)
      rw [String.toList_ofList, byteLength_append, clampPosition_of_isBoundary hfits hstop]
  · simpa [matchAt, Match.ofSpan] using hcode

namespace Engine

variable {settings : Settings} {grammar : Grammar} {texts : List String}

/-- The matches of a query in a text quote it, if the tree of the text lies in it. -/
theorem quotes_of_matchesOfQuery {criteria : Criteria} {path source : String}
    {builder : TreeBuilder} {tree : ParseTree} {query : Query} {matching : List Match}
    (hfits : byteLength source.toList ≤ positionLimit) (htree : tree.LiesIn source.toList)
    (h : matchesOfQuery criteria path source (builder.build tree) query = .ok matching)
    {found : Match} (hfound : found ∈ matching) : found.Quotes source := by
  obtain ⟨span, ⟨first, hfirst, last, hlast, rfl⟩, rfl⟩ := exists_span_of_matchesOfQuery h hfound
  have hbegin := TreeBuilder.liesIn_of_mem_build hfits htree hfirst
  have hend := TreeBuilder.liesIn_of_mem_build hfits htree hlast
  exact quotes_matchOfSpan (hbegin.cover hend)

/-- The matches of a file that holds its tree quote its text. -/
theorem quotes_of_mem_uniqueIn {engine : Engine}
    (hengine : prepare settings grammar texts = .ok engine) {file : SourceFile}
    (hfile : file.HoldsItsTree settings grammar) {found : Match}
    (h : found ∈ engine.uniqueIn settings file) :
    ∃ source, file.content = .ok source ∧ found.Quotes source ∧
      (settings.mode.isStructural = false → found.code ≠ "") := by
  obtain ⟨source, matching, hcontent, hsearch, hmem⟩ := exists_matching_of_mem_uniqueIn h
  have hfits := hfile.fits source hcontent
  cases engine with
  | text search =>
      obtain rfl := Except.ok.inj hsearch
      obtain ⟨hquotes, hcode⟩ := TextSearch.quotes_of_mem_find hfits hmem
      exact ⟨source, hcontent, hquotes, fun _ => hcode⟩
  | structural engineGrammar queries =>
      have hmode := isStructural_of_prepare hengine
      obtain ⟨rfl, -⟩ := exists_compile_of_prepare hengine
      obtain ⟨root, hroot, query, -, some, hmatches, hin⟩ := exists_query_of_mem_search hsearch hmem
      obtain ⟨tree, htree, rfl⟩ := Grammar.exists_tree_of_parse hroot
      have hlies := hfile.tree hmode source tree hcontent htree
      refine ⟨source, hcontent, quotes_of_matchesOfQuery hfits hlies hmatches hin, fun hnot => ?_⟩
      rw [hmode] at hnot
      cases hnot

end Engine

namespace Search

variable {σ : Type} {observer : Observer σ} {settings : Settings} {grammar : Grammar} {state : σ}
  {files : List SourceFile} {texts : List String}

/-- Every match of a search is a match in one of its files. -/
theorem exists_file_of_mem_run {found : Match}
    (h : found ∈ (run observer settings grammar state files texts).1.found) :
    ∃ engine, Engine.prepare settings grammar texts = .ok engine ∧
      ∃ file ∈ files, found ∈ engine.uniqueIn settings file := by
  cases hengine : Engine.prepare settings grammar texts with
  | error failed =>
      rw [run_of_error _ _ _ _ _ _ hengine, found_of_prepare_error _ _ _ hengine] at h
      cases h
  | ok engine =>
      obtain ⟨count, -, hrun⟩ := run_of_ok observer settings grammar state files texts hengine
      rw [hrun] at h
      have huncut : found ∈ (engine.resultsIn settings (files.take count)).found := by
        unfold truncate at h
        dsimp only at h
        split at h
        · exact List.mem_of_mem_take h
        · exact h
      obtain ⟨file, hfile, hfound⟩ := List.mem_flatMap.mp huncut
      exact ⟨engine, rfl, file, List.mem_of_mem_take hfile, hfound⟩

/-- **Matches quote the source.**  Let the offsets of all files be 32-bit quantities, and if trees are
compared, let the parts of their parse trees lie in their texts.  Then every match of a search is one
in a file of its path: its offsets are in order and lie in the text of the file, and its code is what
stands between them.  In text mode the code is not empty. -/
theorem matches_quote_source (observer : Observer σ) (settings : Settings) (grammar : Grammar)
    (state : σ) {files : List SourceFile} (texts : List String)
    (hfiles : ∀ file ∈ files, file.HoldsItsTree settings grammar) :
    ∀ found ∈ (run observer settings grammar state files texts).1.found,
      ∃ file ∈ files, ∃ source, file.path = found.filePath ∧ file.content = .ok source ∧
        found.Quotes source ∧ (settings.mode.isStructural = false → found.code ≠ "") := by
  intro found hfound
  obtain ⟨engine, hengine, file, hfile, hmem⟩ := exists_file_of_mem_run hfound
  obtain ⟨source, hcontent, hquotes, hcode⟩ :=
    Engine.quotes_of_mem_uniqueIn hengine (hfiles file hfile) hmem
  exact ⟨file, hfile, source, (Engine.filePath_of_mem_uniqueIn hmem).symm, hcontent, hquotes, hcode⟩

end Search

/-- The language of calls with two texts that are several calls. -/
def Calls.several : Grammar where
  profile := profile
  layout := layout
  parser
    | "f(a)h(é)g(a)" => some (tree "program" none 0 13
        [call 0 4 [name 2 3], call 4 9 [name 6 8], call 9 13 [name 11 12]])
    | "f(a)h($)" => some (tree "program" none 0 8 [call 0 4 [name 2 3], call 4 8 [name 6 7]])
    | _ => none

/-- In `f(a)h(é)g(a)` the query `f(a)h($)` finds the first two calls, and the match quotes them.  So does
the match of `é` in text mode, which has two bytes. -/
theorem calls_quoted :
    let files : List SourceFile := [⟨"a", .ok "f(a)h(é)g(a)"⟩]
    let found := fun mode texts =>
      (Search.run Observer.none { mode := mode } Calls.several () files texts).1.found
    (found .exact ["f(a)h($)"]).map Match.range = [(0, 9)] ∧
    (∀ window ∈ found .exact ["f(a)h($)"], window.Quotes "f(a)h(é)g(a)") ∧
    (found .text ["é"]).map Match.range = [(6, 8)] ∧
    ∀ letter ∈ found .text ["é"], letter.Quotes "f(a)h(é)g(a)" ∧ letter.code ≠ "" := by
  intro files found
  have hholds : ∀ mode, ∀ file ∈ files, file.HoldsItsTree { mode := mode } Calls.several := by
    intro mode file hfile
    obtain rfl := List.mem_singleton.mp hfile
    refine ⟨fun source hcontent => ?_, fun _ source tree hcontent htree => ?_⟩
    · obtain rfl := Except.ok.inj hcontent
      decide
    · obtain rfl := Except.ok.inj hcontent
      obtain rfl := Option.some.inj htree
      decide
  have hquoted := fun mode texts =>
    Search.matches_quote_source Observer.none { mode := mode } Calls.several () texts (hholds mode)
  refine ⟨by decide +kernel, fun window hmem => ?_, by decide +kernel, fun letter hmem => ?_⟩
  · obtain ⟨file, hfile, source, -, hcontent, hquotes, -⟩ :=
      hquoted .exact ["f(a)h($)"] window hmem
    obtain rfl := List.mem_singleton.mp hfile
    rwa [Except.ok.inj hcontent]
  · obtain ⟨file, hfile, source, -, hcontent, hquotes, hcode⟩ :=
      hquoted .text ["é"] letter hmem
    obtain rfl := List.mem_singleton.mp hfile
    rw [Except.ok.inj hcontent]
    exact ⟨hquotes, hcode rfl⟩

end StructuralSearch
