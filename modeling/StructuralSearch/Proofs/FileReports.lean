import Mathlib.Data.List.Forall2
import StructuralSearch.Proofs.SearchLoop
import StructuralSearch.Proofs.SureSearch

/-!
# Reports file by file

What a file gives to a search depends on the file alone, and each file that has matches is reported
in a batch of its own.

* `run_append`: without a reason to end a search, its files are independent of one another.  A file
  that cannot be parsed adds its error and changes nothing else.
* `session_accounts`: the batches of a search are the matches of its files in their order, and put
  together they are the results of the search up to its limit, in every search of a session.

A session is a list of searches that share an observer.  `Observer.recording` keeps the batches of a
search beside the state of any other observer.
-/

namespace StructuralSearch

/-! ### What a file gives -/

/-- If all elements of a list are mapped without failure, each result is that of an element. -/
theorem exists_mem_of_mapM_ok {ε α β : Type} {f : α → Except ε β} {xs : List α} {ys : List β}
    (h : xs.mapM f = .ok ys) : ∀ y ∈ ys, ∃ x ∈ xs, f x = .ok y := by
  induction xs generalizing ys with
  | nil =>
      obtain rfl := Except.ok.inj h
      simp
  | cons x xs ih =>
      rw [List.mapM_cons] at h
      cases hfirst : f x with
      | error error => simp [hfirst, bind, Except.bind] at h
      | ok first =>
          cases hothers : xs.mapM f with
          | error error => simp [hfirst, hothers, bind, Except.bind] at h
          | ok others =>
              simp only [hfirst, hothers, bind, Except.bind] at h
              obtain rfl := Except.ok.inj h
              intro y hy
              rcases List.mem_cons.mp hy with rfl | hy
              · exact ⟨x, List.mem_cons_self, hfirst⟩
              · obtain ⟨other, hother, heq⟩ := ih hothers y hy
                exact ⟨other, List.mem_cons_of_mem _ hother, heq⟩

namespace Engine

variable {engine : Engine} {settings : Settings} {file : SourceFile} {found : Match}

/-- The matches of one query bear the path of the file. -/
theorem filePath_of_matchesOfQuery {criteria : Criteria} {path source : String} {root : Node}
    {query : Query} {matching : List Match}
    (h : matchesOfQuery criteria path source root query = .ok matching)
    (hfound : found ∈ matching) : found.filePath = path := by
  unfold matchesOfQuery at h
  cases hspans : ((criteria.findSpans query.target root).run {}).1 with
  | error error =>
      rw [hspans] at h
      cases h
  | ok spans =>
      rw [hspans] at h
      obtain rfl := Except.ok.inj h
      obtain ⟨span, -, rfl⟩ := List.mem_map.mp hfound
      rfl

/-- A match in a text whose tree is compared is a match of one of the queries in the parsed text. -/
theorem exists_query_of_mem_search {grammar : Grammar} {queries : List Query} {path source : String}
    {matching : List Match}
    (h : (structural grammar queries).search settings path source = .ok matching)
    (hfound : found ∈ matching) :
    ∃ root, grammar.parse source = .ok root ∧ ∃ query ∈ queries, ∃ some,
      matchesOfQuery ⟨grammar.profile, settings.mode, settings.caseInsensitive⟩ path source root
        query = .ok some ∧ found ∈ some := by
  cases hroot : grammar.parse source with
  | error error => simp [search, hroot, bind, Except.bind] at h
  | ok root =>
      cases hall : queries.mapM (matchesOfQuery ⟨grammar.profile, settings.mode,
          settings.caseInsensitive⟩ path source root) with
      | error error => simp [search, hroot, hall, bind, Except.bind] at h
      | ok all =>
          simp only [search, hroot, hall, bind, Except.bind] at h
          obtain rfl := Except.ok.inj h
          obtain ⟨some, hsome, hmem⟩ := List.mem_flatten.mp hfound
          obtain ⟨query, hquery, hmatches⟩ := exists_mem_of_mapM_ok hall some hsome
          exact ⟨root, rfl, query, hquery, some, hmatches, hmem⟩

/-- The matches of all queries bear the path of the file. -/
theorem filePath_of_search {path source : String} {matching : List Match}
    (h : engine.search settings path source = .ok matching) (hfound : found ∈ matching) :
    found.filePath = path := by
  cases engine with
  | text search =>
      obtain rfl := Except.ok.inj h
      obtain ⟨pattern, -, hmem⟩ := List.mem_flatMap.mp hfound
      obtain ⟨place, -, rfl⟩ := List.mem_map.mp hmem
      rfl
  | structural grammar queries =>
      obtain ⟨root, -, query, -, some, hmatches, hmem⟩ := exists_query_of_mem_search h hfound
      exact filePath_of_matchesOfQuery hmatches hmem

/-- A unique match of a file is a match in its text. -/
theorem exists_matching_of_mem_uniqueIn (h : found ∈ engine.uniqueIn settings file) :
    ∃ source matching, file.content = .ok source ∧
      engine.search settings file.path source = .ok matching ∧ found ∈ matching := by
  unfold uniqueIn searchFile at h
  cases hcontent : file.content with
  | error reason => simp [hcontent, Except.toOption] at h
  | ok source =>
      cases hsearch : engine.search settings file.path source with
      | error error => simp [hcontent, hsearch, Except.map, Except.toOption] at h
      | ok matching =>
          simp only [hcontent, hsearch, Except.map, Except.toOption, Option.getD_some] at h
          exact ⟨source, matching, rfl, hsearch, dedup_subset matching h⟩

/-- The matches of a file bear its path. -/
theorem filePath_of_mem_uniqueIn (h : found ∈ engine.uniqueIn settings file) :
    found.filePath = file.path := by
  obtain ⟨source, matching, -, hsearch, hmem⟩ := exists_matching_of_mem_uniqueIn h
  exact filePath_of_search hsearch hmem

/-- A file with matches has no error. -/
theorem errorsIn_of_mem_uniqueIn (h : found ∈ engine.uniqueIn settings file) :
    engine.errorsIn settings file = [] := by
  unfold uniqueIn at h
  unfold errorsIn
  cases houtcome : engine.searchFile settings file with
  | ok unique => rfl
  | error error => simp [houtcome, Except.toOption] at h

/-- A file that cannot be parsed has an error and no match. -/
theorem resultsIn_of_parse_error {grammar : Grammar} {queries : List Query} {source : String}
    {error : SearchError} (hcontent : file.content = .ok source)
    (herror : grammar.parse source = .error error) :
    (structural grammar queries).uniqueIn settings file = [] ∧
      (structural grammar queries).errorsIn settings file = [.file file.path error.message] := by
  have houtcome : (structural grammar queries).searchFile settings file = .error error := by
    simp [searchFile, hcontent, search, herror, bind, Except.bind, Except.map]
  exact ⟨by simp [uniqueIn, houtcome, Except.toOption], by simp [errorsIn, houtcome]⟩

end Engine

/-! ### The files are independent -/

/-- An observer does not ask to stop from a state on, whatever it is told. -/
def Observer.NeverStops {σ : Type} (observer : Observer σ) (state : σ) : Prop :=
  ∀ batches : List (List Match), observer.isStopped (batches.foldl observer.notify state) = false

namespace Search

variable {σ : Type} {observer : Observer σ} {settings : Settings} {grammar : Grammar} {state : σ}
  {texts : List String} {engine : Engine}

/-- **A search that nothing ends goes through all files.** -/
theorem run_of_neverStops (hlimit : settings.maxResults = none) (hdebug : settings.debug = false)
    (hquiet : observer.NeverStops state)
    (hengine : Engine.prepare settings grammar texts = .ok engine) (files : List SourceFile) :
    (run observer settings grammar state files texts).1 = engine.resultsIn settings files := by
  obtain ⟨count, hcount, hrun⟩ := run_of_ok observer settings grammar state files texts hengine
  have hall : count = files.length := hcount.eq_length
    (not_endsBehind_of_quiet observer settings state hlimit hdebug fun done => hquiet _)
  rw [hrun, hall, List.take_length, truncate, hlimit]

/-- **The files of a search are independent.**  Without a limit, debug mode and an observer that
asks to stop, what is found in some files and then in others is what is found in the former followed
by what is found in the latter, and so are the errors; the hints are those on the queries.  A file
that cannot be parsed adds one error in its place, and nothing else. -/
theorem run_append (hlimit : settings.maxResults = none) (hdebug : settings.debug = false)
    (hquiet : observer.NeverStops state)
    (hengine : Engine.prepare settings grammar texts = .ok engine)
    (first second : List SourceFile) :
    let results := fun files => (run observer settings grammar state files texts).1
    ((results (first ++ second)).found = (results first).found ++ (results second).found ∧
      (results (first ++ second)).errors = (results first).errors ++ (results second).errors ∧
      (results (first ++ second)).hints = (results first).hints ∧
      (results first).hints = (results second).hints) ∧
    ∀ (broken : SourceFile) (source : String) (error : SearchError),
      settings.mode.isStructural = true → broken.content = .ok source →
      grammar.parse source = .error error →
      (results (first ++ broken :: second)).found = (results (first ++ second)).found ∧
        (results (first ++ broken :: second)).errors =
          (results first).errors ++ .file broken.path error.message :: (results second).errors ∧
        (results (first ++ broken :: second)).hints = (results (first ++ second)).hints := by
  intro results
  have hresults : results = engine.resultsIn settings :=
    funext (run_of_neverStops hlimit hdebug hquiet hengine)
  rw [hresults]
  refine ⟨⟨List.flatMap_append, List.flatMap_append, rfl, rfl⟩, ?_⟩
  intro broken source error hmode hcontent herror
  obtain ⟨queries, rfl⟩ : ∃ queries, engine = .structural grammar queries := by
    rw [Engine.prepare_of_isStructural hmode] at hengine
    split at hengine
    · exact ⟨_, (Except.ok.inj hengine).symm⟩
    · cases hengine
  obtain ⟨hnone, hone⟩ :=
    @Engine.resultsIn_of_parse_error settings broken grammar queries source error hcontent herror
  simp [Engine.resultsIn, List.flatMap_append, List.flatMap_cons, hnone, hone]

end Search

/-- Calls of `f` are searched in a file, in a file that cannot be parsed and once more in the first
one, while an observer counts the files with matches. -/
theorem calls_append :
    let counting : Observer Nat := ⟨fun count _ => count + 1, fun _ => false⟩
    let settings : Settings := { mode := .exact, maxResults := none }
    let results := fun files => (Search.run counting settings Calls.grammar 0 files ["f(a)"]).1
    let first : List SourceFile := [⟨"a", .ok "f(a)"⟩, ⟨"b", .ok "f("⟩]
    let second : List SourceFile := [⟨"a", .ok "f(a)"⟩]
    (results first).found.map Match.range = [(0, 4)] ∧
    (results (first ++ second)).found = (results first).found ++ (results second).found ∧
    (results (first ++ second)).errors = (results first).errors ++ (results second).errors ∧
    (results (first ++ ⟨"c", .ok "f)"⟩ :: second)).errors =
      (results first).errors ++ .file "c" "parsing failed" :: (results second).errors := by
  intro counting settings results first second
  have hcompile : Query.compile Calls.grammar 0 "f(a)" =
      .ok ⟨0, "f(a)", .node ((Calls.profile.body (Calls.queryNode "f(a)")).headD
        (Calls.queryNode "f(a)")), []⟩ := by
    rw [Query.compile, if_neg (by decide +kernel)]
    rfl
  have hprepare : Engine.prepare settings Calls.grammar ["f(a)"] = .ok (.structural Calls.grammar
      (Query.compileAll Calls.grammar ["f(a)"]).queries) := by
    rw [Engine.prepare_of_isStructural rfl, Query.compileAll_singleton hcompile]
    rfl
  obtain ⟨⟨hfound, herrors, -, -⟩, hbroken⟩ :=
    @Search.run_append Nat counting settings Calls.grammar 0 ["f(a)"] _ rfl rfl (fun _ => rfl)
      hprepare first second
  obtain ⟨-, hone, -⟩ :=
    hbroken ⟨"c", .ok "f)"⟩ "f)" (.parse 1 1 "parsing failed") rfl rfl rfl
  refine ⟨?_, hfound, herrors, hone⟩
  dsimp only [results]
  rw [Search.run, Engine.prepare_of_isStructural rfl, Query.compileAll_singleton hcompile]
  decide +kernel

/-! ### What an observer is told -/

/-- An observer that keeps what it is told beside the state of another one. -/
def Observer.recording {σ : Type} (observer : Observer σ) : Observer (σ × List (List Match)) where
  notify := fun (state, told) batch => (observer.notify state batch, told ++ [batch])
  isStopped := fun (state, _) => observer.isStopped state

/-- The files and the queries of one search. -/
structure Request where
  files : List SourceFile
  texts : List String

/-- A file gives these matches: it has no error, it has these matches in a plain search, and they
bear its path. -/
structure SourceFile.Gives (settings : Settings) (grammar : Grammar) (texts : List String)
    (file : SourceFile) (batch : List Match) : Prop where
  errors : (search settings.plain grammar [file] texts).errors = []
  found : (search settings.plain grammar [file] texts).found = batch
  path : ∀ found ∈ batch, found.filePath = file.path

/-- The results of a search and what its observer was told agree. -/
structure Request.Accounts (settings : Settings) (grammar : Grammar) (request : Request)
    (results : Results) (told : List (List Match)) : Prop where
  /-- no batch is empty -/
  nonempty : ∀ batch ∈ told, batch ≠ []
  /-- the files up to some place are reported in their order, but for those without matches -/
  reported : ∃ count, told =
    Search.batchesIn (fun files => search settings.plain grammar files request.texts)
      (request.files.take count)
  /-- each batch is what one of the files gives, and these files come in their order -/
  in_order : ∃ sources, sources.Sublist request.files ∧
    List.Forall₂ (SourceFile.Gives settings grammar request.texts) sources told
  /-- the batches are the results up to the limit -/
  total : results.found =
    match settings.maxResults with
    | some limit => told.flatten.take limit
    | none => told.flatten
  /-- there are none if the queries fail -/
  failed : ∀ failed, Engine.prepare settings grammar request.texts = .error failed → told = []

namespace Search

variable {σ : Type}

/-- The searches of a session, one after the other with the same observer: the results of each, and
what the observer was told in it. -/
def session (observer : Observer σ) (settings : Settings) (grammar : Grammar) (state : σ) :
    List Request → List (Results × List (List Match))
  | [] => []
  | request :: requests =>
    let (results, after, told) :=
      run observer.recording settings grammar (state, []) request.files request.texts
    (results, told) :: session observer settings grammar after requests

variable (observer : Observer σ) (settings : Settings) (grammar : Grammar) (state : σ)

/-- The record grows with what is told. -/
theorem foldl_recording (told batches : List (List Match)) :
    batches.foldl observer.recording.notify (state, told) =
      (batches.foldl observer.notify state, told ++ batches) := by
  induction batches generalizing state told with
  | nil => simp
  | cons batch batches ih =>
      rw [List.foldl_cons, List.foldl_cons]
      exact (ih _ _).trans (by simp)

/-- Each batch is what one of the files gives, and these files come in their order. -/
theorem exists_sources_of_batchesIn {engine : Engine} {texts : List String}
    (hengine : Engine.prepare settings grammar texts = .ok engine) (done : List SourceFile) :
    ∃ sources, sources.Sublist done ∧ List.Forall₂ (SourceFile.Gives settings grammar texts)
      sources (batchesIn (engine.resultsIn settings) done) := by
  let hasMatches := fun file => !(engine.resultsIn settings [file]).found.isEmpty
  have hbatches : batchesIn (engine.resultsIn settings) done =
      (done.filter hasMatches).map fun file => (engine.resultsIn settings [file]).found := by
    rw [batchesIn, List.filter_map]
    rfl
  refine ⟨done.filter hasMatches, List.filter_sublist, ?_⟩
  rw [hbatches, List.forall₂_map_right_iff, List.forall₂_same]
  intro file hfile
  have hsome : (engine.resultsIn settings [file]).found ≠ [] := by
    simpa [hasMatches] using (List.mem_filter.mp hfile).2
  rw [Engine.found_resultsIn_singleton] at hsome
  obtain ⟨found, hfound⟩ := List.exists_mem_of_ne_nil _ hsome
  refine ⟨?_, ?_, ?_⟩
  · rw [search_plain settings grammar [file] texts hengine, Engine.errors_resultsIn_singleton]
    exact Engine.errorsIn_of_mem_uniqueIn hfound
  · rw [search_plain settings grammar [file] texts hengine]
  · intro other hother
    rw [Engine.found_resultsIn_singleton] at hother
    exact Engine.filePath_of_mem_uniqueIn hother

/-- Put together, the batches are all that is found. -/
theorem flatten_batchesIn (engine : Engine) (done : List SourceFile) :
    (batchesIn (engine.resultsIn settings) done).flatten =
      (engine.resultsIn settings done).found := by
  rw [batchesIn, List.flatten_filter_not_isEmpty, ← List.flatMap_def]
  simp only [Engine.found_resultsIn_singleton]
  rfl

/-- **One search.**  What an observer is told in a search agrees with its results. -/
theorem accounts_of_run (request : Request) :
    let outcome :=
      run observer.recording settings grammar (state, []) request.files request.texts
    request.Accounts settings grammar outcome.1 outcome.2.2 := by
  intro outcome
  cases hprepare : Engine.prepare settings grammar request.texts with
  | error failed =>
      have hnone := found_of_prepare_error settings grammar request.texts hprepare
      have hrun : outcome = (failed, state, []) := run_of_error observer.recording settings grammar
        (state, []) request.files request.texts hprepare
      rw [hrun]
      refine ⟨by simp, ⟨0, rfl⟩, ⟨[], List.nil_sublist _, .nil⟩, ?_, fun _ _ => rfl⟩
      rw [hnone]
      split <;> simp
  | ok engine =>
      obtain ⟨count, hcount, hrun⟩ := run_of_ok observer.recording settings grammar (state, [])
        request.files request.texts hprepare
      have htold : outcome.2.2 =
          batchesIn (engine.resultsIn settings) (request.files.take count) := by
        have hstate : outcome.2 = _ := congrArg Prod.snd hrun
        rw [hstate, stateBehind, foldl_recording, List.nil_append]
      have hfound : outcome.1 = truncate settings (engine.resultsIn settings
          (request.files.take count)) := congrArg Prod.fst hrun
      have hplain : (fun files => search settings.plain grammar files request.texts) =
          engine.resultsIn settings :=
        funext fun files => search_plain settings grammar files request.texts hprepare
      rw [htold, hfound]
      constructor
      · intro batch hbatch
        simpa using (List.mem_filter.mp hbatch).2
      · rw [hplain]
        exact ⟨count, rfl⟩
      · obtain ⟨sources, hsources, hgives⟩ :=
          exists_sources_of_batchesIn settings grammar hprepare (request.files.take count)
        exact ⟨sources, hsources.trans (List.take_sublist count _), hgives⟩
      · rw [flatten_batchesIn]
        unfold truncate
        cases settings.maxResults <;> rfl
      · intro failed hfailed
        rw [hprepare] at hfailed
        cases hfailed

/-- **Reports and results never drift apart.**  In every search of a session, whatever the observer
does with what it is told, no batch is empty, each batch holds the matches of one file, the files
come in their order, and the batches put together are the results up to the limit; nothing is told
of a file that fails or has no match, nor in a search whose queries fail. -/
theorem session_accounts (requests : List Request) :
    List.Forall₂ (fun request outcome => request.Accounts settings grammar outcome.1 outcome.2)
      requests (session observer settings grammar state requests) := by
  induction requests generalizing state with
  | nil => exact .nil
  | cons request requests ih =>
      rw [session]
      exact .cons (accounts_of_run observer settings grammar state request) (ih _)

end Search

end StructuralSearch
