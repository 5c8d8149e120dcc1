import StructuralSearch.Proofs.ExpressionMatches
import StructuralSearch.Proofs.FirstFailures
import StructuralSearch.Proofs.SpanBounds
import StructuralSearch.Proofs.TextMatches

/-!
# The order of the queries

The matches of all queries in a file are put together, query by query, before they are made unique.
So another order of the queries changes which match of a range comes first.  This makes no
difference where the range of a match says everything about it, and it does: a span that is found
begins and ends with nodes of the file, and so its offsets tell its lines and columns, and a text
match is the stretch of the text between its offsets.

The key local fact is about one file (`Engine.agree_searchFile`): searches for the same texts give the
same matches, or both fail.  So they have the same reasons to end, file after file
(`Search.AgreeOn.endsBehind`), and go equally far.

* `Search.run_of_same_texts`: what a search finds and which files fail depends neither on the order of
  its queries nor on their repetition.

There are two things that the order does decide (`query_order_seen`).  Where two queries fail on one
file, the first one words the error.  And behind the offsets that 32 bits can tell, matches of a text
are no longer told by their ranges, and the first one of a range is kept.
-/

namespace StructuralSearch

/-- The file that a record is about. -/
def ErrorRecord.path? : ErrorRecord → Option String
  | .file path _ => some path
  | .query _ _ _ _ => none

/-- The places of a file are told by their offsets: those of its parse tree, or those of its text. -/
structure SourceFile.WellPlaced (settings : Settings) (grammar : Grammar) (file : SourceFile) :
    Prop where
  tree : settings.mode.isStructural = true → ∀ source tree, file.content = .ok source →
    grammar.parser source = some tree → tree.WellPlaced
  text : settings.mode.isStructural = false → ∀ source, file.content = .ok source →
    Text.byteLength source.toList ≤ positionLimit

/-- Mapping a list fails, with the failure of one of its elements, or it maps each of them. -/
theorem mapM_cases {ε α β : Type} (f : α → Except ε β) (xs : List α) :
    (∃ ys, xs.mapM f = .ok ys ∧ ∀ x ∈ xs, ∃ y ∈ ys, f x = .ok y) ∨
      ∃ e, xs.mapM f = .error e ∧ ∃ x ∈ xs, f x = .error e := by
  induction xs with
  | nil => exact Or.inl ⟨[], rfl, by simp⟩
  | cons x xs ih =>
      rw [List.mapM_cons]
      cases hfirst : f x with
      | error e => exact Or.inr ⟨e, rfl, x, List.mem_cons_self, hfirst⟩
      | ok first =>
          rcases ih with ⟨others, hothers, hall⟩ | ⟨e, hfails, other, hother, hfailed⟩
          · refine Or.inl ⟨first :: others, by rw [hothers]; rfl, ?_⟩
            intro y hy
            rcases List.mem_cons.mp hy with rfl | hlater
            · exact ⟨first, List.mem_cons_self, hfirst⟩
            · obtain ⟨z, hz, heq⟩ := hall y hlater
              exact ⟨z, List.mem_cons_of_mem _ hz, heq⟩
          · exact Or.inr ⟨e, by rw [hfails]; rfl, other, List.mem_cons_of_mem _ hother, hfailed⟩

/-! ### One file -/

namespace Engine

section Queries

variable {criteria : Criteria} {path source : String} {root : Node} {queries others : List Query}

/-- The matches of a query depend on its target only. -/
theorem matchesOfQuery_eq {query other : Query} (h : query.target = other.target) :
    matchesOfQuery criteria path source root query =
      matchesOfQuery criteria path source root other := by
  unfold matchesOfQuery
  rw [h]

/-- The matches of a query are those of spans that cover nodes of the file. -/
theorem exists_span_of_matchesOfQuery {query : Query} {matching : List Match}
    (h : matchesOfQuery criteria path source root query = .ok matching) {found : Match}
    (hfound : found ∈ matching) :
    ∃ span, span.CoverOf root.walk ∧ found = matchOfSpan path source span := by
  unfold matchesOfQuery at h
  cases hspans : ((criteria.findSpans query.target root).run {}).1 with
  | error e =>
      rw [hspans] at h
      cases h
  | ok spans =>
      rw [hspans] at h
      obtain rfl := Except.ok.inj h
      obtain ⟨span, hspan, rfl⟩ := List.mem_map.mp hfound
      exact ⟨span, criteria.returns_findSpans query.target root {} spans hspans span hspan, rfl⟩

/-- Where a list of queries does not fail on a file, neither does another one that looks for no more
things. -/
theorem exists_matches_of_subset (hmore : others.map (·.target) ⊆ queries.map (·.target))
    {found : List (List Match)}
    (hfound : queries.mapM (matchesOfQuery criteria path source root) = .ok found) :
    ∃ found', others.mapM (matchesOfQuery criteria path source root) = .ok found' ∧
      found'.flatten ⊆ found.flatten := by
  rcases mapM_cases (matchesOfQuery criteria path source root) queries with
    ⟨all, hall, heach⟩ | ⟨e, hfails, -⟩
  · rw [hfound] at hall
    obtain rfl := Except.ok.inj hall
    have hother : ∀ other ∈ others, ∃ part ∈ found,
        matchesOfQuery criteria path source root other = .ok part := by
      intro other hother
      obtain ⟨query, hquery, htarget⟩ := List.mem_map.mp (hmore (List.mem_map_of_mem hother))
      obtain ⟨part, hpart, hmatches⟩ := heach query hquery
      exact ⟨part, hpart, by rw [← hmatches, matchesOfQuery_eq htarget]⟩
    rcases mapM_cases (matchesOfQuery criteria path source root) others with
      ⟨found', hfound', -⟩ | ⟨e, -, other, hmem, hfailed⟩
    · refine ⟨found', hfound', fun match' hmatch => ?_⟩
      obtain ⟨part, hpart, hin⟩ := List.mem_flatten.mp hmatch
      obtain ⟨other, hmem, hmatches⟩ := exists_mem_of_mapM_ok hfound' part hpart
      obtain ⟨same, hsame, heq⟩ := hother other hmem
      rw [hmatches] at heq
      obtain rfl := Except.ok.inj heq
      exact List.mem_flatten.mpr ⟨part, hsame, hin⟩
    · obtain ⟨part, -, hmatches⟩ := hother other hmem
      rw [hfailed] at hmatches
      cases hmatches
  · rw [hfound] at hfails
    cases hfails

end Queries

variable {settings : Settings} {grammar : Grammar} {texts others : List String}

/-- Two outcomes of a file agree: the matches are the same, or both are failures. -/
inductive Agree :
    Except SearchError (List Match) → Except SearchError (List Match) → Prop
  | found (unique : List Match) : Agree (.ok unique) (.ok unique)
  | failed (e e' : SearchError) : Agree (.error e) (.error e')

/-- Agreement does not depend on which outcome comes first. -/
theorem Agree.symm {outcome outcome' : Except SearchError (List Match)}
    (h : Agree outcome outcome') : Agree outcome' outcome := by
  cases h with
  | found unique => exact .found unique
  | failed e e' => exact .failed e' e

/-- Matches in a file whose places are told by their offsets are told by their ranges. -/
theorem toldByRange_of_wellPlaced {tree : ParseTree} (hplaced : tree.WellPlaced)
    {builder : TreeBuilder} {path source : String} {matching : List Match}
    (h : ∀ found ∈ matching, ∃ span, span.CoverOf (builder.build tree).walk ∧
      found = matchOfSpan path source span) : ToldByRange matching := by
  intro a ha b hb hrange
  obtain ⟨span, hspan, rfl⟩ := h a ha
  obtain ⟨other, hother, rfl⟩ := h b hb
  obtain ⟨hstart, hstop⟩ := Prod.mk.inj hrange
  rw [hplaced.span_eq_of_offsets hspan.boundedBy hother.boundedBy hstart hstop]

/-- An engine compares trees exactly if the settings ask for it. -/
theorem isStructural_of_prepare {engineGrammar : Grammar} {queries : List Query}
    (h : prepare settings grammar texts = .ok (.structural engineGrammar queries)) :
    settings.mode.isStructural = true := by
  by_contra hmode
  unfold prepare at h
  rw [if_neg hmode] at h
  split at h <;> cases h

/-- Queries with the same targets agree on a parsed file. -/
theorem agree_search_structural {queries others : List Query}
    (hsame : ∀ target, target ∈ queries.map (·.target) ↔ target ∈ others.map (·.target))
    {path source : String}
    (hplaced : ∀ tree, grammar.parser source = some tree → tree.WellPlaced) :
    Agree (((structural grammar queries).search settings path source).map dedup)
      (((structural grammar others).search settings path source).map dedup) := by
  cases hroot : grammar.parse source with
  | error e =>
      simp only [search, hroot, bind, Except.bind, Except.map]
      exact .failed e e
  | ok root =>
      obtain ⟨tree, htree, hbuild⟩ := Grammar.exists_tree_of_parse hroot
      have htold := hplaced tree htree
      let matchesOf := matchesOfQuery ⟨grammar.profile, settings.mode, settings.caseInsensitive⟩
        path source root
      rw [search_structural hroot, search_structural hroot]
      cases hfound : queries.mapM matchesOf with
      | ok found =>
          obtain ⟨found', hfound', hfewer⟩ :=
            exists_matches_of_subset (fun target h => (hsame target).mpr h) hfound
          obtain ⟨again, hagain, hmore⟩ :=
            exists_matches_of_subset (fun target h => (hsame target).mp h) hfound'
          rw [hfound] at hagain
          obtain rfl := Except.ok.inj hagain
          have hspans : ∀ match' ∈ found.flatten, ∃ span, span.CoverOf root.walk ∧
              match' = matchOfSpan path source span := by
            intro match' hmatch
            obtain ⟨part, hpart, hin⟩ := List.mem_flatten.mp hmatch
            obtain ⟨query, -, hmatches⟩ := exists_mem_of_mapM_ok hfound part hpart
            exact exists_span_of_matchesOfQuery hmatches hin
          rw [hbuild] at hspans
          have hdedup : dedup found.flatten = dedup found'.flatten :=
            dedup_eq_of_mem_iff (toldByRange_of_wellPlaced htold hspans)
              fun _ => ⟨fun h => hmore h, fun h => hfewer h⟩
          rw [hfound']
          simp only [Except.map, hdedup]
          exact .found _
      | error e =>
          cases hfound' : others.mapM matchesOf with
          | ok found' =>
              obtain ⟨found, hok, -⟩ :=
                exists_matches_of_subset (fun target h => (hsame target).mp h) hfound'
              rw [hfound] at hok
              cases hok
          | error e' => exact .failed e e'

/-- Text searches with the same expressions agree on a text whose offsets are 32-bit quantities. -/
theorem agree_search_text {sought other : TextSearch}
    (hsame : ∀ pattern, pattern ∈ sought.patterns ↔ pattern ∈ other.patterns)
    {path source : String} (hfits : Text.byteLength source.toList ≤ positionLimit) :
    Agree (((text sought).search settings path source).map dedup)
      (((text other).search settings path source).map dedup) := by
  have hmatches : ∀ found, found ∈ sought.find path source ↔ found ∈ other.find path source := by
    intro found
    rw [TextSearch.mem_find_iff, TextSearch.mem_find_iff]
    simp only [hsame]
  have hdedup := dedup_eq_of_mem_iff (TextSearch.toldByRange_find hfits) hmatches
  simp only [search, Except.map, hdedup]
  exact .found _

/-- **One file.**  Searches for the same texts agree on a file whose places are told by their offsets.
-/
theorem agree_searchFile (hsame : ∀ text, text ∈ texts ↔ text ∈ others) {file : SourceFile}
    (hplaced : file.WellPlaced settings grammar) :
    Agree ((ofTexts settings grammar texts).searchFile settings file)
      ((ofTexts settings grammar others).searchFile settings file) := by
  unfold searchFile
  cases hcontent : file.content with
  | error reason => exact .failed _ _
  | ok source =>
      unfold ofTexts
      cases hmode : settings.mode.isStructural with
      | true =>
          refine agree_search_structural (fun target => ?_) (hplaced.tree hmode source · hcontent)
          rw [Query.targets_compileAll, Query.targets_compileAll]
          simp only [List.mem_filterMap, hsame]
      | false =>
          refine agree_search_text (fun pattern => ?_) (hplaced.text hmode source hcontent)
          simp only [List.mem_filterMap, hsame]

end Engine

/-! ### All files -/

namespace Search

variable {σ : Type} {observer : Observer σ} {settings : Settings} {state : σ}
  {engine other : Engine} {files done : List SourceFile}

/-- Two engines agree on some files. -/
def AgreeOn (settings : Settings) (engine other : Engine) (files : List SourceFile) : Prop :=
  ∀ file ∈ files, Engine.Agree (engine.searchFile settings file) (other.searchFile settings file)

/-- The matches of a file on which two engines agree. -/
theorem uniqueIn_of_agree {file : SourceFile}
    (h : Engine.Agree (engine.searchFile settings file) (other.searchFile settings file)) :
    engine.uniqueIn settings file = other.uniqueIn settings file := by
  unfold Engine.uniqueIn
  generalize engine.searchFile settings file = outcome, other.searchFile settings file = outcome' at h
  cases h <;> rfl

/-- A file on which two engines agree has an error with both of them or with none. -/
theorem paths_of_agree {file : SourceFile}
    (h : Engine.Agree (engine.searchFile settings file) (other.searchFile settings file)) :
    (engine.errorsIn settings file).map ErrorRecord.path? =
      (other.errorsIn settings file).map ErrorRecord.path? := by
  unfold Engine.errorsIn
  generalize engine.searchFile settings file = outcome, other.searchFile settings file = outcome' at h
  cases h <;> rfl

namespace AgreeOn

/-- They agree on fewer files. -/
theorem mono (h : AgreeOn settings engine other files) (hfewer : done ⊆ files) :
    AgreeOn settings engine other done :=
  fun file hfile => h file (hfewer hfile)

/-- It does not matter which engine comes first. -/
theorem symm (h : AgreeOn settings engine other done) : AgreeOn settings other engine done :=
  fun file hfile => (h file hfile).symm

/-- Behind files on which two engines agree, the same was found. -/
theorem found_eq (h : AgreeOn settings engine other done) :
    (engine.resultsIn settings done).found = (other.resultsIn settings done).found :=
  List.flatMap_congr fun file hfile => uniqueIn_of_agree (h file hfile)

/-- Behind files on which two engines agree, the same files have errors. -/
theorem paths_eq (h : AgreeOn settings engine other done) :
    (engine.resultsIn settings done).errors.map ErrorRecord.path? =
      (other.resultsIn settings done).errors.map ErrorRecord.path? := by
  simp only [Engine.resultsIn, List.map_flatMap]
  exact List.flatMap_congr fun file hfile => paths_of_agree (h file hfile)

/-- Behind files on which two engines agree, an observer was told the same. -/
theorem stateBehind_eq (h : AgreeOn settings engine other done) (observer : Observer σ) (state : σ) :
    stateBehind observer (engine.resultsIn settings) state done =
      stateBehind observer (other.resultsIn settings) state done := by
  have hbatches : (done.map fun file => (engine.resultsIn settings [file]).found) =
      done.map fun file => (other.resultsIn settings [file]).found :=
    List.map_congr_left fun file hfile => (h.mono (by simpa using hfile)).found_eq
  rw [stateBehind, stateBehind, batchesIn, batchesIn, hbatches]

/-- **No other end.**  Behind files on which two engines agree, they have the same reasons to end. -/
theorem endsBehind (h : AgreeOn settings engine other done)
    (hends : EndsBehind observer settings (engine.resultsIn settings) state done) :
    EndsBehind observer settings (other.resultsIn settings) state done := by
  rcases hends with hstopped | ⟨limit, hlimit, hmore⟩ | ⟨before, last, hdebug, hlast, hnews⟩
  · exact .stopped (h.stateBehind_eq observer state ▸ hstopped)
  · exact .exceeded limit hlimit (h.found_eq ▸ hmore)
  · have hhere : AgreeOn settings engine other [last] := h.mono (by simp [hlast])
    refine .debugged before last hdebug hlast (hnews.imp ?_ ?_)
    · exact fun hfound hnone => hfound (hhere.found_eq.trans hnone)
    · exact fun herror hnone => herror (by simpa [hnone] using hhere.paths_eq)

end AgreeOn

/-- What was found stays the same if equal matches are cut. -/
theorem found_truncate_eq {results others : Results} (h : results.found = others.found) :
    (truncate settings results).found = (truncate settings others).found := by
  unfold truncate
  split
  · exact congrArg (List.take _) h
  · exact h

/-- **Neither order nor repetition of the queries matters.**  Let two lists hold the same texts, each
any positive number of times, and let no text fail to compile.  If the places of the files are told by
their offsets, then searches for the two lists find the same matches, tell every observer the same,
and report errors of the same files.  The record of a file that cannot be used is the same; any other
one is that of the first text which fails on the file.  So the errors are the same as well, unless two
of the texts leave different records of one file. -/
theorem run_of_same_texts (observer : Observer σ) (settings : Settings) (grammar : Grammar)
    (state : σ) {files : List SourceFile} {texts others : List String}
    (hsame : ∀ text, text ∈ texts ↔ text ∈ others)
    (hready : ∀ text ∈ texts, Query.failure? grammar settings text = none)
    (hplaced : ∀ file ∈ files, file.WellPlaced settings grammar) :
    let outcome := run observer settings grammar state files texts
    let outcome' := run observer settings grammar state files others
    outcome.2 = outcome'.2 ∧ outcome.1.found = outcome'.1.found ∧
      outcome.1.errors.map ErrorRecord.path? = outcome'.1.errors.map ErrorRecord.path? ∧
      (∃ count,
        outcome.1.errors = (files.take count).filterMap (·.firstRecord? settings grammar texts) ∧
        outcome'.1.errors = (files.take count).filterMap (·.firstRecord? settings grammar others)) ∧
      ((∀ file ∈ files, file.FailsAlike settings grammar texts) →
        outcome.1.errors = outcome'.1.errors) := by
  intro outcome outcome'
  have hothers : ∀ text ∈ others, Query.failure? grammar settings text = none :=
    fun text htext => hready text ((hsame text).mpr htext)
  have hagree : AgreeOn settings (Engine.ofTexts settings grammar texts)
      (Engine.ofTexts settings grammar others) files :=
    fun file hfile => Engine.agree_searchFile hsame (hplaced file hfile)
  have hsome : ∀ count, List.take count files ⊆ files := fun count => List.take_subset count files
  obtain ⟨count, hcount, hrun⟩ :=
    run_of_ok observer settings grammar state files texts (Engine.prepare_of_ready hready)
  obtain ⟨count', hcount', hrun'⟩ :=
    run_of_ok observer settings grammar state files others (Engine.prepare_of_ready hothers)
  -- both searches end behind the same file
  obtain rfl : count = count' := Nat.le_antisymm
    (hcount.le_of_imp hcount' fun fewer => (hagree.mono (hsome fewer)).symm.endsBehind)
    (hcount'.le_of_imp hcount fun fewer => (hagree.mono (hsome fewer)).endsBehind)
  have hdone := hagree.mono (hsome count)
  have herrors : outcome.1.errors =
      (files.take count).filterMap (·.firstRecord? settings grammar texts) := by
    rw [show outcome = _ from hrun, errors_truncate, List.filterMap_eq_flatMap_toList]
    exact List.flatMap_congr fun file _ => SourceFile.errorsIn_ofTexts_eq_firstRecord? hready
  have herrors' : outcome'.1.errors =
      (files.take count).filterMap (·.firstRecord? settings grammar others) := by
    rw [show outcome' = _ from hrun', errors_truncate, List.filterMap_eq_flatMap_toList]
    exact List.flatMap_congr fun file _ => SourceFile.errorsIn_ofTexts_eq_firstRecord? hothers
  refine ⟨?_, ?_, ?_, ⟨count, herrors, herrors'⟩, fun halike => ?_⟩
  · rw [show outcome = _ from hrun, show outcome' = _ from hrun']
    exact hdone.stateBehind_eq observer state
  · rw [show outcome = _ from hrun, show outcome' = _ from hrun']
    exact found_truncate_eq hdone.found_eq
  · rw [show outcome = _ from hrun, show outcome' = _ from hrun', errors_truncate, errors_truncate]
    exact hdone.paths_eq
  · rw [herrors, herrors']
    exact List.filterMap_congr fun file hfile =>
      (halike file (hsome count hfile)).firstRecord?_eq hsame

end Search

/-- Two queries that both match the text `f(a,a)` are given in one order, and in the other order with
one of them repeated. -/
theorem calls_in_any_order :
    let settings : Settings := { mode := .exact }
    let files : List SourceFile := [⟨"a", .ok "f(a,a)"⟩, ⟨"b", .ok "f("⟩]
    let results := fun texts =>
      (Search.run Observer.none settings Calls.grammar () files texts).1
    (results ["f($,a)", "f(a,a)"]).found.map Match.range = [(0, 6)] ∧
    (results ["f($,a)", "f(a,a)"]).found = (results ["f(a,a)", "f($,a)", "f(a,a)"]).found ∧
    (results ["f($,a)", "f(a,a)"]).errors = (results ["f(a,a)", "f($,a)", "f(a,a)"]).errors := by
  intro settings files results
  have hsame : ∀ text, text ∈ ["f($,a)", "f(a,a)"] ↔ text ∈ ["f(a,a)", "f($,a)", "f(a,a)"] := by
    intro text
    simp only [List.mem_cons, List.not_mem_nil]
    tauto
  have hready : ∀ text ∈ ["f($,a)", "f(a,a)"],
      Query.failure? Calls.grammar settings text = none := by decide +kernel
  have hplaced : ∀ file ∈ files, file.WellPlaced settings Calls.grammar := by
    intro file hfile
    refine ⟨fun _ source tree hcontent htree => ?_, fun hmode => nomatch hmode⟩
    rcases List.mem_pair.mp hfile with rfl | rfl
    · obtain rfl := Except.ok.inj hcontent
      obtain rfl := Option.some.inj htree
      decide
    · obtain rfl := Except.ok.inj hcontent
      cases htree
  have hbare : ∀ file ∈ files, file.HasBareTokens Calls.grammar := by
    intro file hfile source root hcontent hroot
    rcases List.mem_pair.mp hfile with rfl | rfl
    · obtain rfl := Except.ok.inj hcontent
      obtain rfl : Calls.node "f(a,a)" = root := Except.ok.inj hroot
      decide
    · obtain rfl := Except.ok.inj hcontent
      cases hroot
  obtain ⟨-, hfound, -, -, herrors⟩ :=
    Search.run_of_same_texts Observer.none settings Calls.grammar () hsame hready hplaced
  exact ⟨by decide +kernel, hfound,
    herrors fun file hfile => SourceFile.failsAlike_of_bareTokens (hbare file hfile) hready⟩

/-! ### Where the order is seen -/

namespace Expression

/-- The expression for one letter. -/
def letter (wanted : Char) : Expression :=
  ⟨false, [.once [.char wanted]]⟩

variable {wanted : Char} {front back : List Char}

/-- A letter matches where it stands. -/
theorem lengthAt_letter_cons (wanted c : Char) (text : List Char) :
    (letter wanted).lengthAt (c :: text) = if wanted = c then some 1 else none := by
  by_cases h : wanted = c <;>
    simp [lengthAt, letter, Item.restsOfAll, Item.rests, Item.holds, CharClass.holds, h]

/-- The scan for a letter passes over a text without it. -/
theorem scan_letter_append (place : Nat) (hfront : wanted ∉ front) (text : List Char) :
    scan place 0 false ((letter wanted).lengths (front ++ text)) =
      scan (place + front.length) 0 false ((letter wanted).lengths text) := by
  induction front generalizing place with
  | nil => rfl
  | cons c front ih =>
      rw [List.cons_append, lengths, lengthAt_letter_cons, if_neg (List.ne_of_not_mem_cons hfront),
        scan, ih _ (List.not_mem_of_not_mem_cons hfront), List.length_cons, Nat.add_assoc,
        Nat.add_comm 1]

/-- The scan for a letter finds nothing in a text without it. -/
theorem scan_letter_of_notMem (place : Nat) (ended : Bool) (hback : wanted ∉ back) :
    scan place 0 ended ((letter wanted).lengths back) = [] := by
  induction back generalizing place ended with
  | nil => rfl
  | cons c back ih =>
      rw [lengths, lengthAt_letter_cons, if_neg (List.ne_of_not_mem_cons hback), scan,
        ih _ _ (List.not_mem_of_not_mem_cons hback)]

/-- A letter that a text has once is found there and nowhere else. -/
theorem find_letter (hfront : wanted ∉ front) (hback : wanted ∉ back) {text : List Char}
    (htext : text = front ++ wanted :: back) :
    ((letter wanted).find text).map (fun found => (found.offset, found.code)) =
      [(Text.byteLength front, [wanted])] := by
  subst htext
  have hscan : scan 0 0 false ((letter wanted).lengths (front ++ wanted :: back)) =
      [(front.length, 1)] := by
    rw [scan_letter_append 0 hfront, lengths, lengthAt_letter_cons, if_pos rfl, scan,
      scan_letter_of_notMem _ _ hback, Nat.zero_add]
  rw [find, takenRow_eq, hscan]
  simp [Stretch.ofRange, Stretch.offset]

end Expression

/-- Of two matches with one range the first one is kept. -/
theorem dedup_pair {a b : Match} (h : a.range = b.range) : dedup [a, b] = [a] := by
  simp [dedup, firstOfEachRange, h]

/-- If two expressions find one stretch each, and both stretches lie behind the offsets that can be told,
then only that of the first one is reported. -/
theorem TextSearch.dedup_find_of_late {first second : Regex} {path source : String}
    {start start' : Nat} {code code' : List Char}
    (hfirst : (first.find source.toList).map (fun found => (found.offset, found.code)) =
      [(start, code)])
    (hsecond : (second.find source.toList).map (fun found => (found.offset, found.code)) =
      [(start', code')])
    (hlate : positionLimit ≤ start ∧ positionLimit ≤ start') (hcode : code ≠ [] ∧ code' ≠ []) :
    dedup (find ⟨[first, second]⟩ path source) = [matchAt path source (start, code)] := by
  obtain ⟨stretch, hstretch, heq⟩ := List.map_eq_singleton_iff.mp hfirst
  obtain ⟨stretch', hstretch', heq'⟩ := List.map_eq_singleton_iff.mp hsecond
  obtain ⟨rfl, rfl⟩ := Prod.mk.inj heq
  obtain ⟨rfl, rfl⟩ := Prod.mk.inj heq'
  have hfind : find ⟨[first, second]⟩ path source =
      [matchAt path source (stretch.offset, stretch.code),
        matchAt path source (stretch'.offset, stretch'.code)] := by
    simp [find, hstretch, hstretch', hcode, matchAt]
  rw [hfind, dedup_pair]
  simp only [Match.range, matchAt, Match.ofSpan, Text.positionAt, clampPosition]
  refine Prod.ext ?_ ?_ <;> simp only <;> omega

namespace Calls

/-- A language of calls and lists, in which the word `list` is a token of the kind that lists have. -/
def listGrammar : Grammar where
  profile := profile
  layout := layout.declare "list" { hasChildren := true }
  parser
    | "f(call,list)" => some (program 12 [word 2 6,
        { tree "list" (some "argument") 7 11 [] with named := false }])
    | "f(g(a))" => some (program 7 [call 2 6 [name 4 5]])
    | "f([a])" => some (program 6 [tree "list" (some "argument") 2 5 [tree "name" none 3 4 []]])
    | _ => none

end Calls

/-- The letter `x` takes one byte. -/
theorem Text.byteLength_replicate (count : Nat) :
    byteLength (List.replicate count 'x') = count := by
  induction count with
  | zero => rfl
  | succ count ih =>
      rw [List.replicate_succ, byteLength, ih, Nat.add_comm]
      rfl

/-- Two letters behind the last offset that can be told have one range, so only the letter that is asked
for first is found. -/
theorem found_of_late_letters {front : List Char} (ha : 'a' ∉ front) (hb : 'b' ∉ front)
    (hlate : positionLimit ≤ Text.byteLength front) (path : String) :
    let settings : Settings := { mode := .text, maxResults := none }
    let files : List SourceFile := [⟨path, .ok (String.ofList (front ++ ['a', 'b']))⟩]
    let found := fun texts => (search settings Calls.grammar files texts).found.map (·.code)
    found ["a", "b"] = ["a"] ∧ found ["b", "a"] = ["b"] := by
  intro settings files found
  have hplain : settings.plain = settings := rfl
  have htext : (String.ofList (front ++ ['a', 'b'])).toList = front ++ 'a' :: ['b'] :=
    String.toList_ofList
  have htext' : (String.ofList (front ++ ['a', 'b'])).toList = (front ++ ['a']) ++ 'b' :: [] := by
    simp
  have hlater : positionLimit ≤ Text.byteLength (front ++ ['a']) := by
    rw [Text.byteLength_append]
    omega
  let regex : Regex := ⟨(Expression.letter 'a').find⟩
  let regex' : Regex := ⟨(Expression.letter 'b').find⟩
  have hcompile : TextPattern.compile .concatenations "a" false = .ok regex := rfl
  have hcompile' : TextPattern.compile .concatenations "b" false = .ok regex' := rfl
  have hfinds := Expression.find_letter ha (by decide) htext
  have hfinds' := Expression.find_letter (by simp [hb]) (by decide) htext'
  have hfound : ∀ first second : String, ∀ regex regex' : Regex,
      TextPattern.compile .concatenations first false = .ok regex →
      TextPattern.compile .concatenations second false = .ok regex' →
      found [first, second] = (dedup (TextSearch.find ⟨[regex, regex']⟩ path
        (String.ofList (front ++ ['a', 'b'])))).map (·.code) := by
    intro first second regex regex' hfirst hsecond
    have hengine : Engine.prepare settings Calls.grammar [first, second] =
        .ok (.text ⟨[regex, regex']⟩) := by
      simp [Engine.prepare, TextSearch.compile, settings, Mode.isStructural, Calls.grammar, hfirst,
        hsecond, Except.toOption]
    have hsearch := Search.search_plain settings Calls.grammar files [first, second] hengine
    rw [hplain] at hsearch
    simp only [found, hsearch, files, Engine.found_resultsIn_singleton]
    rfl
  constructor
  · have hfirst := @TextSearch.dedup_find_of_late regex regex' path _ _ _ _ _ hfinds hfinds'
      ⟨hlate, hlater⟩ ⟨by simp, by simp⟩
    rw [hfound "a" "b" regex regex' hcompile hcompile', hfirst]
    rfl
  · have hfirst := @TextSearch.dedup_find_of_late regex' regex path _ _ _ _ _ hfinds' hfinds
      ⟨hlater, hlate⟩ ⟨by simp, by simp⟩
    rw [hfound "b" "a" regex' regex hcompile' hcompile, hfirst]
    rfl

/-- The order of queries is seen where two of them fail on one file, each at a token of a kind with
fields, and where matches lie behind the offsets that can be told. -/
theorem query_order_seen :
    (let settings : Settings := { mode := .includeAny }
    let files : List SourceFile := [⟨"a", .ok "f(call,list)"⟩]
    let errors := fun texts => (search settings Calls.listGrammar files texts).errors
    (∀ text ∈ ["f(g(a))", "f([a])"], Query.failure? Calls.listGrammar settings text = none) ∧
    (∀ file ∈ files, file.WellPlaced settings Calls.listGrammar) ∧
    errors ["f(g(a))", "f([a])"] = [.file "a" ("validator invariant violated comparing call with call:"
      ++ " file keys [] do not line up with query keys [\"argument\", \"function\"]")] ∧
    errors ["f([a])", "f(g(a))"] = [.file "a" ("validator invariant violated comparing list with list:"
      ++ " file keys [] do not line up with query keys [\"children\"]")]) ∧
    let settings : Settings := { mode := .text, maxResults := none }
    let late := String.ofList (List.replicate positionLimit 'x' ++ ['a', 'b'])
    let found := fun texts =>
      (search settings Calls.grammar [⟨"a", .ok late⟩] texts).found.map (·.code)
    (∀ text ∈ ["a", "b"], Query.failure? Calls.grammar settings text = none) ∧
    found ["a", "b"] = ["a"] ∧ found ["b", "a"] = ["b"] := by
  constructor
  · intro settings files errors
    refine ⟨by decide +kernel, ?_, by decide +kernel, by decide +kernel⟩
    · intro file hfile
      obtain rfl := List.mem_singleton.mp hfile
      refine ⟨fun _ source tree hcontent htree => ?_, fun hmode => nomatch hmode⟩
      obtain rfl := Except.ok.inj hcontent
      obtain rfl := Option.some.inj htree
      decide
  · intro settings late found
    refine ⟨by decide +kernel, found_of_late_letters ?_ ?_ ?_ "a"⟩
    · intro h
      exact absurd (List.eq_of_mem_replicate h) (by decide)
    · intro h
      exact absurd (List.eq_of_mem_replicate h) (by decide)
    · rw [Text.byteLength_replicate]

end StructuralSearch
