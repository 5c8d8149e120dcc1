import StructuralSearch.Proofs.Deduplication
import StructuralSearch.Proofs.FileReports
import StructuralSearch.Proofs.SearchLoop
import StructuralSearch.Proofs.StatementOrder
import StructuralSearch.Proofs.SureSearch

/-!
# Searches in stricter modes

A search without limits reports, file by file, one match for each range that a query covers
(`mem_places_search`).  So two searches for the same queries may be compared span by span
(`places_subset`), and the order of the modes passes from nodes and statements to whole searches.

The order is not kept in general.  `order_lost` is a search that finds with order less than in exact
mode; `modes_in_order` says under which conditions on the queries this does not happen.
-/

namespace StructuralSearch

/-- The file and the bytes that a match reports. -/
def Match.place (found : Match) : String × Nat × Nat :=
  (found.filePath, found.range)

/-- If all matches are in one file, no place is lost and none is made up. -/
theorem mem_map_place_dedup {matching : List Match} {path : String}
    (hpath : ∀ found ∈ matching, found.filePath = path) {place : String × Nat × Nat} :
    place ∈ (dedup matching).map Match.place ↔ place ∈ matching.map Match.place := by
  constructor
  · intro h
    obtain ⟨found, hfound, rfl⟩ := List.mem_map.mp h
    have hmem := dedup_subset matching hfound
    exact List.mem_map_of_mem hmem
  · intro h
    obtain ⟨found, hfound, rfl⟩ := List.mem_map.mp h
    have hrange : found.range ∈ (dedup matching).map Match.range :=
      mem_map_range_dedup.mpr (List.mem_map_of_mem hfound)
    obtain ⟨kept, hkept, heq⟩ := List.mem_map.mp hrange
    have hmem := dedup_subset matching hkept
    refine List.mem_map.mpr ⟨kept, hkept, ?_⟩
    rw [Match.place, Match.place, heq, hpath kept hmem, hpath found hfound]

/-- The file and the bytes that a search reports for each match. -/
def Results.places (results : Results) : List (String × Nat × Nat) :=
  results.found.map Match.place

/-- The bytes that a span covers. -/
def Span.range (span : Span) : Nat × Nat :=
  (span.start.offset, span.stop.offset)

namespace Engine

variable {grammar : Grammar} {settings : Settings}

/-- The places that are reported in a file are those of the spans of all queries. -/
theorem mem_map_place_uniqueIn {criteria : Criteria} {queries : List Query} {file : SourceFile}
    {source : String} {root : Node} (hcontent : file.content = .ok source)
    (hroot : grammar.parse source = .ok root)
    (hcriteria : criteria = ⟨grammar.profile, settings.mode, settings.caseInsensitive⟩)
    (hsure : ∀ query ∈ queries, ∀ wanted ∈ query.target.nodes criteria.profile,
      ∀ node ∈ root.walk, ∃ found, criteria.verdict wanted node = .ok found)
    {place : String × Nat × Nat} :
    place ∈ ((structural grammar queries).uniqueIn settings file).map Match.place ↔
      ∃ query ∈ queries, ∃ span ∈ criteria.spans query.target root,
        place = (file.path, span.range) := by
  have hfile : (structural grammar queries).searchFile settings file =
      .ok (dedup (queries.flatMap fun query =>
        (criteria.spans query.target root).map (matchOfSpan file.path source))) := by
    subst hcriteria
    simp only [searchFile, hcontent, search, hroot, bind, Except.bind,
      matchesOfQueries_eq_ok hsure file.path source, Except.map, List.flatMap_def]
    rfl
  have hpath : ∀ found ∈ queries.flatMap fun query =>
      (criteria.spans query.target root).map (matchOfSpan file.path source),
      found.filePath = file.path := by
    intro found hfound
    obtain ⟨query, -, hmem⟩ := List.mem_flatMap.mp hfound
    obtain ⟨span, -, rfl⟩ := List.mem_map.mp hmem
    rfl
  rw [uniqueIn, hfile]
  refine (mem_map_place_dedup hpath).trans ?_
  simp only [List.mem_map, List.mem_flatMap]
  constructor
  · rintro ⟨found, ⟨query, hquery, span, hspan, rfl⟩, rfl⟩
    exact ⟨query, hquery, span, hspan, rfl⟩
  · rintro ⟨query, hquery, span, hspan, rfl⟩
    exact ⟨_, ⟨query, hquery, span, hspan, rfl⟩, rfl⟩

end Engine

/-- The same settings with another mode. -/
def Settings.inMode (settings : Settings) (mode : Mode) : Settings :=
  { settings with mode := mode }

section Structural

variable {settings : Settings} {grammar : Grammar} {files : List SourceFile} {texts : List String}

/-- **Searches without limits.**  A place is reported exactly if all queries compile and it is one of
the unique matches of a file. -/
theorem mem_places_search (settings : Settings) (hmode : settings.mode.isStructural = true)
    (hlimit : settings.maxResults = none) (hdebug : settings.debug = false)
    {place : String × Nat × Nat} :
    place ∈ (search settings grammar files texts).places ↔
      (Query.compileAll grammar texts).isOk = true ∧ ∃ file ∈ files,
        place ∈ ((Engine.structural grammar (Query.compileAll grammar texts).queries).uniqueIn
          settings file).map Match.place := by
  have hprepare := @Engine.prepare_of_isStructural settings grammar texts hmode
  by_cases hok : (Query.compileAll grammar texts).isOk = true
  · rw [if_pos hok] at hprepare
    rw [← settings.plain_eq_self hlimit hdebug, Search.search_plain settings grammar files texts
      hprepare, settings.plain_eq_self hlimit hdebug]
    simp only [hok, true_and, Results.places, Engine.resultsIn, List.map_flatMap, List.mem_flatMap]
  · rw [if_neg hok] at hprepare
    rw [search, Search.run_of_error Observer.none settings grammar () files texts hprepare]
    simp [hok, Results.places, Results.ofErrors]

/-- A file with matches could be read and parsed. -/
theorem Engine.exists_root_of_mem_uniqueIn {queries : List Query} {file : SourceFile}
    {found : Match} (h : found ∈ (structural grammar queries).uniqueIn settings file) :
    ∃ source root, file.content = .ok source ∧ grammar.parse source = .ok root := by
  obtain ⟨source, matching, hcontent, hsearch, hmem⟩ := exists_matching_of_mem_uniqueIn h
  obtain ⟨root, hroot, -⟩ := exists_query_of_mem_search hsearch hmem
  exact ⟨source, root, hcontent, hroot⟩

/-- **From mode to mode in searches.**  If the nodes of no query fail on a node of a file in either
mode and all spans of one mode are spans of the other, then so it is with the places that are
reported. -/
theorem places_subset {narrow wide : Mode} (hnarrow : narrow.isStructural = true)
    (hwide : wide.isStructural = true)
    (hlimit : settings.maxResults = none) (hdebug : settings.debug = false)
    (hsure : ∀ mode, ∀ query ∈ (Query.compileAll grammar texts).queries, ∀ file ∈ files,
      ∀ source root, file.content = .ok source → grammar.parse source = .ok root →
      ∀ wanted ∈ query.target.nodes grammar.profile, ∀ node ∈ root.walk, ∃ found,
        Criteria.verdict ⟨grammar.profile, mode, settings.caseInsensitive⟩ wanted node = .ok found)
    (h : ∀ query ∈ (Query.compileAll grammar texts).queries, ∀ file ∈ files, ∀ source root,
      file.content = .ok source → grammar.parse source = .ok root →
      Criteria.spans ⟨grammar.profile, narrow, settings.caseInsensitive⟩ query.target root ⊆
        Criteria.spans ⟨grammar.profile, wide, settings.caseInsensitive⟩ query.target root) :
    (search (settings.inMode narrow) grammar files texts).places ⊆
      (search (settings.inMode wide) grammar files texts).places := by
  have hplaces : ∀ mode : Mode, mode.isStructural = true → ∀ place,
      (place ∈ (search (settings.inMode mode) grammar files texts).places ↔
        (Query.compileAll grammar texts).isOk = true ∧ ∃ file ∈ files,
          place ∈ ((Engine.structural grammar (Query.compileAll grammar texts).queries).uniqueIn
            (settings.inMode mode) file).map Match.place) :=
    fun mode hmode place => mem_places_search (settings.inMode mode) hmode hlimit hdebug
  intro place hplace
  obtain ⟨hok, file, hfile, hmem⟩ := (hplaces narrow hnarrow place).mp hplace
  refine (hplaces wide hwide place).mpr ⟨hok, file, hfile, ?_⟩
  obtain ⟨found, hfound, -⟩ := List.mem_map.mp hmem
  obtain ⟨source, root, hcontent, hroot⟩ := Engine.exists_root_of_mem_uniqueIn hfound
  rw [Engine.mem_map_place_uniqueIn hcontent hroot rfl fun query hquery =>
    hsure narrow query hquery file hfile source root hcontent hroot] at hmem
  rw [Engine.mem_map_place_uniqueIn hcontent hroot rfl fun query hquery =>
    hsure wide query hquery file hfile source root hcontent hroot]
  obtain ⟨query, hquery, span, hspan, heq⟩ := hmem
  exact ⟨query, hquery, span, h query hquery file hfile source root hcontent hroot hspan, heq⟩

end Structural

namespace Criteria

variable {criteria : Criteria} {narrow wide : Mode} {root : Node}

/-- The spans of a single node pass from one mode to another if its matches do. -/
theorem spans_node_subset {target : Node}
    (h : ∀ node ∈ root.walk, (criteria.inMode narrow).verdict target node = .ok true →
      (criteria.inMode wide).verdict target node = .ok true) :
    (criteria.inMode narrow).spans (.node target) root ⊆
      (criteria.inMode wide).spans (.node target) root := by
  unfold spans
  by_cases hwildcard : (criteria.profile.nodeWildcard? target).isSome = true
  · have hnarrow : ((criteria.inMode narrow).profile.nodeWildcard? target).isSome = true :=
      hwildcard
    have hwide : ((criteria.inMode wide).profile.nodeWildcard? target).isSome = true := hwildcard
    dsimp only
    rw [if_pos hnarrow, if_pos hwide]
    exact List.Subset.refl _
  · have hnarrow : ¬ ((criteria.inMode narrow).profile.nodeWildcard? target).isSome = true :=
      hwildcard
    have hwide : ¬ ((criteria.inMode wide).profile.nodeWildcard? target).isSome = true := hwildcard
    dsimp only
    rw [if_neg hnarrow, if_neg hwide]
    intro span hspan
    obtain ⟨node, hnode, rfl⟩ := List.mem_map.mp hspan
    obtain ⟨hcandidate, hmatch⟩ := List.mem_filter.mp hnode
    refine List.mem_map_of_mem (List.mem_filter.mpr ⟨hcandidate, ?_⟩)
    rw [isMatch_iff] at hmatch ⊢
    exact h node (List.mem_of_mem_filter hcandidate) hmatch

/-- The spans of statements pass from one mode to another if they do in every body. -/
theorem spans_statements_subset {block : Node}
    (h : ∀ holder ∈ root.walk, criteria.profile.holdsStatements holder = true →
      (criteria.inMode narrow).stretches (criteria.profile.body block)
          (criteria.profile.body holder) ⊆
        (criteria.inMode wide).stretches (criteria.profile.body block)
          (criteria.profile.body holder)) :
    (criteria.inMode narrow).spans (.statements block) root ⊆
      (criteria.inMode wide).spans (.statements block) root := by
  intro span hspan
  obtain ⟨holder, hholder, hmem⟩ := List.mem_flatMap.mp hspan
  obtain ⟨hwalk, hholds⟩ := List.mem_filter.mp hholder
  exact List.mem_flatMap.mpr ⟨holder, hholder, h holder hwalk hholds hmem⟩

/-- What a query reports in exact mode in a file it reports with order: its sequences choose in turn
there; and if it is a query of several statements, it does not begin with a rest wildcard and none of
its statements is found twice in a body. -/
def KeptWithOrder (criteria : Criteria) (root : Node) : QueryTarget → Prop
  | .node target => target.EverySequence (criteria.InTurn root.walk)
  | .statements block =>
      (∀ query ∈ criteria.profile.body block, query.EverySequence (criteria.InTurn root.walk)) ∧
      criteria.BeginsAsking (criteria.profile.body block) ∧
      ∀ holder ∈ root.walk, criteria.profile.holdsStatements holder = true →
        (criteria.inMode .includeOrdered).Unambiguous (criteria.profile.body block)
          (criteria.profile.body holder)

/-- What a query reports with order in a file it reports without: its sequences are undisturbed
there; and if it is a query of several statements, none of these is found twice in a body. -/
def KeptWithoutOrder (criteria : Criteria) (root : Node) : QueryTarget → Prop
  | .node target => target.EverySequence (criteria.Undisturbed root.walk)
  | .statements block =>
      (∀ query ∈ criteria.profile.body block,
        query.EverySequence (criteria.Undisturbed root.walk)) ∧
      ∀ holder ∈ root.walk, criteria.profile.holdsStatements holder = true →
        (criteria.inMode .includeAny).Unambiguous (criteria.profile.body block)
          (criteria.profile.body holder)

section Kept

variable (criteria : Criteria) {layout : Layout} {target : QueryTarget}
  (hroot : root.Everywhere layout.Covers)
  (htarget : ∀ query ∈ target.nodes criteria.profile, query.Everywhere layout.Fits)
include hroot htarget

/-- There are verdicts on the statements of a query and of the bodies of a file in all modes. -/
theorem verdict_ok_of_mem_bodies {holder : Node} (hholder : holder ∈ root.walk) :
    ∀ mode, ∀ query ∈ target.nodes criteria.profile, ∀ file ∈ criteria.profile.body holder,
      ∃ found, (criteria.inMode mode).verdict query file = .ok found :=
  fun _ query hquery _ hfile => verdict_ok_of_fits (htarget query hquery)
    (hroot.visited (mem_walk_of_mem_body hholder hfile))

/-- From exact mode to order. -/
theorem spans_includeOrdered (h : criteria.KeptWithOrder root target) :
    (criteria.inMode .exact).spans target root ⊆
      (criteria.inMode .includeOrdered).spans target root := by
  cases target with
  | node target =>
      exact spans_node_subset fun node hnode =>
        verdict_includeOrdered hroot (htarget target (by simp [QueryTarget.nodes])) h hnode
  | statements block =>
      obtain ⟨hturn, hbegins, hunique⟩ := h
      refine spans_statements_subset fun holder hholder hholds => ?_
      exact stretches_includeOrdered hbegins (hunique holder hholder hholds)
        (criteria.verdict_ok_of_mem_bodies hroot htarget hholder) fun query hquery file hfile =>
          verdict_includeOrdered hroot (htarget query hquery) (hturn query hquery)
            (mem_walk_of_mem_body hholder hfile)

/-- From order to freedom. -/
theorem spans_includeAny (h : criteria.KeptWithoutOrder root target) :
    (criteria.inMode .includeOrdered).spans target root ⊆
      (criteria.inMode .includeAny).spans target root := by
  cases target with
  | node target =>
      exact spans_node_subset fun node hnode =>
        verdict_includeAny hroot (htarget target (by simp [QueryTarget.nodes])) h hnode
  | statements block =>
      obtain ⟨hundisturbed, hunique⟩ := h
      refine spans_statements_subset fun holder hholder hholds => ?_
      exact stretches_includeAny (hunique holder hholder hholds)
        (criteria.verdict_ok_of_mem_bodies hroot htarget hholder) fun query hquery file hfile =>
          verdict_includeAny hroot (htarget query hquery) (hundisturbed query hquery)
            (mem_walk_of_mem_body hholder hfile)

end Kept

end Criteria

/-- A tree is that of one of the files. -/
def Grammar.ParsesIn (grammar : Grammar) (files : List SourceFile) (root : Node) : Prop :=
  ∃ file ∈ files, ∃ source, file.content = .ok source ∧ grammar.parse source = .ok root

section Search

variable {settings : Settings} {grammar : Grammar} {files : List SourceFile} {texts : List String}
  (hlimit : settings.maxResults = none) (hdebug : settings.debug = false)
  (hbare : ∀ file ∈ files, file.HasBareTokens grammar)
include hlimit hdebug hbare

/-- What one mode reports another one reports, if it is so for the spans of each query on each
tree. -/
theorem places_subset_of_spans {narrow wide : Mode} (hnarrow : narrow.isStructural = true)
    (hwide : wide.isStructural = true)
    (h : ∀ query ∈ (Query.compileAll grammar texts).queries, ∀ root, grammar.ParsesIn files root →
      root.Everywhere grammar.layout.Covers →
      (∀ wanted ∈ query.target.nodes grammar.profile, wanted.Everywhere grammar.layout.Fits) →
      Criteria.spans ⟨grammar.profile, narrow, settings.caseInsensitive⟩ query.target root ⊆
        Criteria.spans ⟨grammar.profile, wide, settings.caseInsensitive⟩ query.target root) :
    (search (settings.inMode narrow) grammar files texts).places ⊆
      (search (settings.inMode wide) grammar files texts).places := by
  have hfits : ∀ query ∈ (Query.compileAll grammar texts).queries,
      ∀ wanted ∈ query.target.nodes grammar.profile, wanted.Everywhere grammar.layout.Fits := by
    intro query hquery wanted hwanted
    obtain ⟨index, text, hcompile⟩ := (Query.compileAll_sound grammar texts).1 query hquery
    exact (Query.buildsQuery_of_compile hcompile wanted hwanted).everywhere_fits
  have hcovers : ∀ file ∈ files, ∀ source root, file.content = .ok source →
      grammar.parse source = .ok root → root.Everywhere grammar.layout.Covers :=
    fun file hfile source root hcontent hroot => (Grammar.builds_of_parse hroot).everywhere_covers
      (hbare file hfile source root hcontent hroot)
  refine places_subset hnarrow hwide hlimit hdebug ?_ ?_
  · intro mode query hquery file hfile source root hcontent hroot wanted hwanted node hnode
    exact Criteria.verdict_ok_of_fits (hfits query hquery wanted hwanted)
      ((hcovers file hfile source root hcontent hroot).visited hnode)
  · intro query hquery file hfile source root hcontent hroot
    exact h query hquery root ⟨file, hfile, source, hcontent, hroot⟩
      (hcovers file hfile source root hcontent hroot) (hfits query hquery)

end Search

/-- **The order of the modes.**  A search without limits over files whose tokens are of kinds without
fields reports in exact mode no more than with order if its queries keep what exact mode reports, and
with order no more than without if they keep what order reports.

For sequences the condition of the first is exact: if every element of a query sequence accepts some
of the file nodes in exact mode, the sequences that are found with order wherever they are found in
exact mode among these nodes are those that choose in turn and whose elements accept with order what
they accept in exact mode. -/
theorem modes_in_order (grammar : Grammar) {settings : Settings}
    (hlimit : settings.maxResults = none) (hdebug : settings.debug = false) :
    let criteria : Criteria := ⟨grammar.profile, settings.mode, settings.caseInsensitive⟩
    (∀ files texts, (∀ file ∈ files, file.HasBareTokens grammar) →
      ((∀ query ∈ (Query.compileAll grammar texts).queries, ∀ root, grammar.ParsesIn files root →
          criteria.KeptWithOrder root query.target) →
        (search (settings.inMode .exact) grammar files texts).places ⊆
          (search (settings.inMode .includeOrdered) grammar files texts).places) ∧
      ((∀ query ∈ (Query.compileAll grammar texts).queries, ∀ root, grammar.ParsesIn files root →
          criteria.KeptWithoutOrder root query.target) →
        (search (settings.inMode .includeOrdered) grammar files texts).places ⊆
          (search (settings.inMode .includeAny) grammar files texts).places)) ∧
    ∀ queries nodes : List Node, (∀ query ∈ queries, grammar.BuildsQuery query) →
      (∀ node ∈ nodes, grammar.Builds node ∧ node.Everywhere grammar.layout.BareToken) →
      (∀ query ∈ criteria.claimants queries, ∃ node ∈ nodes,
        criteria.profile.isComparable node = true ∧
          (criteria.inMode .exact).acceptsNode query node = true) →
      ((∀ files, files ⊆ nodes →
          (criteria.inMode .exact).sequenceVerdict queries files = .ok true →
          (criteria.inMode .includeOrdered).sequenceVerdict queries files = .ok true) ↔
        criteria.InTurn nodes queries ∧ ∀ query ∈ criteria.claimants queries, ∀ node ∈ nodes,
          criteria.profile.isComparable node = true →
          (criteria.inMode .exact).acceptsNode query node = true →
          (criteria.inMode .includeOrdered).acceptsNode query node = true) := by
  intro criteria
  refine ⟨fun files texts hbare => ⟨fun hkept => ?_, fun hkept => ?_⟩, ?_⟩
  · exact places_subset_of_spans hlimit hdebug hbare rfl rfl
      fun query hquery root hparses hroot hfits =>
        criteria.spans_includeOrdered hroot hfits (hkept query hquery root hparses)
  · exact places_subset_of_spans hlimit hdebug hbare rfl rfl
      fun query hquery root hparses hroot hfits =>
        criteria.spans_includeAny hroot hfits (hkept query hquery root hparses)
  · intro queries nodes hqueries hnodes hmatch
    exact Criteria.sequenceVerdict_includeOrdered_iff_inTurn
      (fun mode query hquery node hnode => Criteria.verdict_ok_of_builds (hqueries query hquery)
        (hnodes node hnode).1 (hnodes node hnode).2) hmatch

namespace Calls

theorem headD_body_mem_walk (root : Node) : (profile.body root).headD root ∈ root.walk := by
  cases hbody : profile.body root with
  | nil => exact Node.mem_walk_self root
  | cons call calls =>
      have hcall : call ∈ root.sequence profile.bodyField := by
        rw [show root.sequence profile.bodyField = call :: calls from hbody]
        exact List.mem_cons_self
      exact Node.mem_walk_of_mem_sequence hcall

/-- The arguments of a query are built. -/
theorem buildsQuery_argument {text : String} {argument : Node}
    (h : argument ∈ (queryCall text).sequence "argument") : grammar.BuildsQuery argument :=
  (buildsQuery_node text).visited
    (Node.mem_walk_trans (Node.mem_walk_of_mem_sequence h) (headD_body_mem_walk _))

/-- The arguments of a text are visited. -/
theorem argument_mem_walk {text : String} {argument : Node}
    (h : argument ∈ (fileCall text).sequence "argument") : argument ∈ (node text).walk :=
  Node.mem_walk_trans (Node.mem_walk_of_mem_sequence h) (headD_body_mem_walk _)

end Calls

/-- `f(c,g(a))` is searched in itself and in a longer call, and its arguments choose in turn. -/
theorem calls_in_order :
    let criteria : Criteria := ⟨Calls.profile, .includeAny, false⟩
    let settings : Settings := { maxResults := none }
    let files : List SourceFile := [⟨"a", .ok "f(c,g(a))"⟩, ⟨"b", .ok "f(b,c,g(a))"⟩]
    let texts := ["f(c,g(a))"]
    let arguments := (Calls.queryCall "f(c,g(a))").sequence "argument"
    let others := (Calls.fileCall "f(b,c,g(a))").sequence "argument"
    (search (settings.inMode .exact) Calls.grammar files texts).places ⊆
      (search (settings.inMode .includeOrdered) Calls.grammar files texts).places ∧
    (search (settings.inMode .includeOrdered) Calls.grammar files texts).places ⊆
      (search (settings.inMode .includeAny) Calls.grammar files texts).places ∧
    ∀ files, files ⊆ others →
      (criteria.inMode .exact).sequenceVerdict arguments files = .ok true →
      (criteria.inMode .includeOrdered).sequenceVerdict arguments files = .ok true := by
  intro criteria settings files texts arguments others
  have hcompile : Query.compile Calls.grammar 0 "f(c,g(a))" =
      .ok ⟨0, "f(c,g(a))", .node (Calls.queryCall "f(c,g(a))"), []⟩ := by
    rw [Query.compile, if_neg (by decide +kernel)]
    rfl
  have hsorted : (Calls.queryCall "f(c,g(a))").EverySequence fun queries =>
      (criteria.claimants queries).Pairwise criteria.MayPrecede ∧
        (criteria.trailing queries).length ≤ 1 := by
    decide +kernel
  have hbare : ∀ file ∈ files, file.HasBareTokens Calls.grammar := by
    intro file hfile source root hcontent hroot
    rcases List.mem_pair.mp hfile with rfl | rfl
    · obtain rfl := Except.ok.inj hcontent
      obtain rfl : Calls.node "f(c,g(a))" = root := Except.ok.inj hroot
      decide
    · obtain rfl := Except.ok.inj hcontent
      obtain rfl : Calls.node "f(b,c,g(a))" = root := Except.ok.inj hroot
      decide
  have hlimit : settings.maxResults = none := rfl
  obtain ⟨hsearch, hsequences⟩ := modes_in_order Calls.grammar hlimit rfl
  refine ⟨(hsearch files texts hbare).1 ?_, (hsearch files texts hbare).2 ?_,
    (hsequences arguments others ?_ ?_ ?_).mpr ⟨?_, ?_⟩⟩
  · intro query hquery root _
    rw [Query.compileAll_singleton hcompile, List.mem_singleton] at hquery
    subst hquery
    exact hsorted.mono fun queries h => .of_mayPrecede h.1 h.2
  · intro query hquery root _
    rw [Query.compileAll_singleton hcompile, List.mem_singleton] at hquery
    subst hquery
    exact hsorted.mono fun queries h => .of_mayPrecede h.1
  · exact fun query hquery => Calls.buildsQuery_argument hquery
  · intro node hnode
    have hwalk := Calls.argument_mem_walk hnode
    have hall : (Calls.node "f(b,c,g(a))").Everywhere Calls.layout.BareToken := by decide
    exact ⟨(Calls.builds_node _).visited hwalk, hall.visited hwalk⟩
  · decide +kernel
  · exact .of_mayPrecede (by decide +kernel) (by decide +kernel)
  · decide +kernel

/-- In `f($,a)` the name chooses before the wildcard, so that in order nothing is left in front of it in
`f(a,a)`. -/
theorem verdict_of_wildcard_in_front :
    Criteria.verdict ⟨Calls.profile, .includeOrdered, false⟩ (Calls.queryCall "f($,a)")
      (Calls.fileCall "f(a,a)") = .ok false := by
  rw [Criteria.verdict_eq_sequenceVerdict _ "argument" ["argument", "function"] rfl rfl rfl rfl
    (by decide +kernel), Criteria.sequenceVerdict_eq]
  simp only [Criteria.searchSequence, Sequence.claim_eq_claimByInsertion]
  decide +kernel

/-- The order is lost where a greedy claim takes away what another element needs: in `f($,a)` the name
chooses first, and in `f(a,a)` it takes the argument in front. -/
theorem order_lost :
    let settings : Settings := { maxResults := none }
    let files : List SourceFile := [⟨"a", .ok "f(a,a)"⟩]
    (search (settings.inMode .exact) Calls.grammar files ["f($,a)"]).places = [("a", 0, 6)] ∧
    (search (settings.inMode .includeOrdered) Calls.grammar files ["f($,a)"]).places = [] := by
  intro settings files
  let criteria : Criteria := ⟨Calls.profile, .includeOrdered, false⟩
  let call := Calls.queryCall "f($,a)"
  let root := Calls.node "f(a,a)"
  let compiled : Query := ⟨0, "f($,a)", .node call, []⟩
  have hcompile : Query.compile Calls.grammar 0 "f($,a)" = .ok compiled := by
    rw [Query.compile, if_neg (by decide +kernel)]
    rfl
  constructor
  · unfold search Search.run
    rw [Engine.prepare_of_isStructural rfl, Query.compileAll_singleton hcompile]
    decide +kernel
  · have hsure : ∀ query ∈ [compiled], ∀ wanted ∈ query.target.nodes criteria.profile,
        ∀ node ∈ root.walk, ∃ found, criteria.verdict wanted node = .ok found := by
      intro query hquery
      obtain rfl := List.mem_singleton.mp hquery
      exact Query.verdict_ok_of_compile rfl hcompile (Calls.builds_node "f(a,a)") (by decide)
    have hspans : criteria.spans compiled.target root = [] := by
      refine criteria.spans_node_eq_nil (by decide +kernel) fun node hnode hkind => ?_
      have htried : node ∈ root.walk.filter fun node =>
          criteria.profile.areAlternatives call.kind node.kind :=
        List.mem_filter.mpr ⟨hnode, hkind⟩
      obtain rfl : node = Calls.fileCall "f(a,a)" := List.mem_singleton.mp htried
      rw [verdict_of_wildcard_in_front]
      decide
    refine List.eq_nil_iff_forall_not_mem.mpr fun place hplace => ?_
    obtain ⟨-, file, hfile, hmem⟩ := (mem_places_search _ rfl rfl rfl).mp hplace
    rw [Query.compileAll_singleton hcompile] at hmem
    obtain rfl := List.mem_singleton.mp hfile
    obtain ⟨query, hquery, span, hspan, -⟩ :=
      (Engine.mem_map_place_uniqueIn rfl rfl rfl hsure).mp hmem
    obtain rfl := List.mem_singleton.mp hquery
    exact absurd (hspans ▸ hspan : span ∈ []) List.not_mem_nil

end StructuralSearch
