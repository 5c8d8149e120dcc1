import Mathlib.Data.List.Range
import StructuralSearch.Proofs.FileReports

/-!
# What is reported about queries

A list of queries is read as a whole.  Each text either gives a query or a record of its failure,
under the index of the text, and no search begins while one of them fails.

The key local fact is a step: behind one more text, the batch is again split by the indices of its
texts (`QueryBatch.Accounts.addQuery`, `addError`).  Whether a text fails depends on the text alone and on the
settings (`Query.failure?`), so the reports of both engines are the same list of records
(`Query.failures`), and a search either reports exactly these or, if there are none, the files that
it could not use.

* `Query.compileAll_accounts`: a batch accounts for every text;
* `Search.run_reports`: the errors of a search are about all failing queries or about files, never
  about both.
-/

namespace StructuralSearch

/-- The place of the query that a record is about. -/
def ErrorRecord.index? : ErrorRecord → Option Nat
  | .query index _ _ _ => some index
  | .file _ _ => none

/-- **A batch accounts for its texts.**  Each index stands in exactly one of the two lists, with what
became of its text. -/
structure QueryBatch.Accounts (grammar : Grammar) (texts : List String) (batch : QueryBatch) :
    Prop where
  /-- a query is what its text compiles to -/
  compiled : ∀ query ∈ batch.queries, ∃ text, texts[query.index]? = some text ∧
    Query.compile grammar query.index text = .ok query
  /-- an error says why its text does not compile -/
  failed : ∀ record ∈ batch.errors, ∃ index text error, texts[index]? = some text ∧
    Query.compile grammar index text = .error error ∧ record = Query.errorRecord index error
  /-- no index is left out, and none stands in both lists or twice in one of them -/
  split : (batch.queries.map (·.index) ++ batch.errors.filterMap (·.index?)).Perm
    (List.range texts.length)
  queries_increasing : (batch.queries.map (·.index)).Pairwise (· < ·)
  errors_increasing : (batch.errors.filterMap (·.index?)).Pairwise (· < ·)
  /-- there are hints for each text -/
  length_hints : batch.hints.length = texts.length
  hints_of_query : ∀ query ∈ batch.queries, batch.hints[query.index]? = some query.hints
  hints_of_error : ∀ record ∈ batch.errors, ∀ index, record.index? = some index →
    batch.hints[index]? = some []

namespace QueryBatch.Accounts

variable {grammar : Grammar} {texts : List String} {batch : QueryBatch}

theorem lt_of_mem_queries (h : batch.Accounts grammar texts) {query : Query}
    (hquery : query ∈ batch.queries) : query.index < texts.length := by
  obtain ⟨text, htext, -⟩ := h.compiled query hquery
  exact (List.getElem?_eq_some_iff.mp htext).1

theorem lt_of_mem_errors (h : batch.Accounts grammar texts) {record : ErrorRecord}
    (hrecord : record ∈ batch.errors) {index : Nat} (hindex : record.index? = some index) :
    index < texts.length := by
  obtain ⟨place, text, error, htext, -, rfl⟩ := h.failed record hrecord
  obtain rfl := Option.some.inj hindex
  exact (List.getElem?_eq_some_iff.mp htext).1

/-- Indices below a bound stay increasing with the bound behind them. -/
theorem pairwise_concat {indices : List Nat} {bound : Nat} (h : indices.Pairwise (· < ·))
    (hbelow : ∀ index ∈ indices, index < bound) : (indices ++ [bound]).Pairwise (· < ·) := by
  rw [List.pairwise_append]
  refine ⟨h, List.pairwise_singleton _ _, fun index hindex last hlast => ?_⟩
  rw [List.mem_singleton.mp hlast]
  exact hbelow index hindex

/-- An element stays in its place when another one is added. -/
theorem getElem?_concat_of_some {α : Type} {held : List α} {place : Nat} {element added : α}
    (h : held[place]? = some element) : (held ++ [added])[place]? = some element := by
  have hlt := (List.getElem?_eq_some_iff.mp h).1
  rw [List.getElem?_append_left hlt, h]

/-- The hints on the text behind a batch stand behind the other hints. -/
theorem getElem?_hints_concat (h : batch.Accounts grammar texts) (added : List Hint) :
    (batch.hints ++ [added])[texts.length]? = some added := by
  rw [← h.length_hints, List.getElem?_concat_length]

theorem length_hints_concat (h : batch.Accounts grammar texts) (added : List Hint)
    (text : String) : (batch.hints ++ [added]).length = (texts ++ [text]).length := by
  rw [List.length_append, List.length_append, h.length_hints]
  rfl

/-- **One more query.**  A text that compiles is accounted for among the queries. -/
theorem addQuery (h : batch.Accounts grammar texts) {text : String} {query : Query}
    (houtcome : Query.compile grammar texts.length text = .ok query) :
    (Query.addOutcome batch texts.length (.ok query)).Accounts grammar (texts ++ [text]) := by
  have hindex : query.index = texts.length := by
    obtain ⟨-, root, target, hints, -, -, rfl⟩ := Query.compile_eq_ok_iff.mp houtcome
    rfl
  have hbelow : ∀ index ∈ batch.queries.map (·.index), index < texts.length := by
    intro index hmem
    obtain ⟨other, hother, rfl⟩ := List.mem_map.mp hmem
    exact h.lt_of_mem_queries hother
  constructor
  case compiled =>
    intro other hother
    rcases List.mem_append.mp hother with hold | hnew
    · obtain ⟨found, hfound, hcompile⟩ := h.compiled other hold
      exact ⟨found, getElem?_concat_of_some hfound, hcompile⟩
    · rw [List.mem_singleton.mp hnew, hindex]
      exact ⟨text, List.getElem?_concat_length, houtcome⟩
  case failed =>
    intro record hrecord
    obtain ⟨index, found, error, hfound, hfailed⟩ := h.failed record hrecord
    exact ⟨index, found, error, getElem?_concat_of_some hfound, hfailed⟩
  case split =>
    -- the new index stands in the middle and is brought behind the failed ones
    have hswap : ([texts.length] ++ batch.errors.filterMap (·.index?)).Perm
        (batch.errors.filterMap (·.index?) ++ [texts.length]) := List.perm_append_comm
    have hbehind := hswap.append_left (batch.queries.map (·.index))
    rw [← List.append_assoc, ← List.append_assoc] at hbehind
    rw [Query.addOutcome, List.map_append, List.map_singleton, hindex, List.length_append,
      List.length_singleton, List.range_succ]
    exact hbehind.trans (h.split.append_right _)
  case queries_increasing =>
    rw [Query.addOutcome, List.map_append, List.map_singleton, hindex]
    exact pairwise_concat h.queries_increasing hbelow
  case errors_increasing => exact h.errors_increasing
  case length_hints => exact h.length_hints_concat query.hints text
  case hints_of_query =>
    intro other hother
    rcases List.mem_append.mp hother with hold | hnew
    · exact getElem?_concat_of_some (h.hints_of_query other hold)
    · rw [List.mem_singleton.mp hnew, hindex]
      exact h.getElem?_hints_concat query.hints
  case hints_of_error =>
    intro record hrecord index hsome
    exact getElem?_concat_of_some (h.hints_of_error record hrecord index hsome)

/-- **One more failure.**  A text that does not compile is accounted for among the errors. -/
theorem addError (h : batch.Accounts grammar texts) {text : String} {error : SearchError}
    (houtcome : Query.compile grammar texts.length text = .error error) :
    (Query.addOutcome batch texts.length (.error error)).Accounts grammar (texts ++ [text]) := by
  have hbelow : ∀ index ∈ batch.errors.filterMap (·.index?), index < texts.length := by
    intro index hmem
    obtain ⟨record, hrecord, hsome⟩ := List.mem_filterMap.mp hmem
    exact h.lt_of_mem_errors hrecord hsome
  constructor
  case compiled =>
    intro query hquery
    obtain ⟨found, hfound, hcompile⟩ := h.compiled query hquery
    exact ⟨found, getElem?_concat_of_some hfound, hcompile⟩
  case failed =>
    intro record hrecord
    rcases List.mem_append.mp hrecord with hold | hnew
    · obtain ⟨index, found, fault, hfound, hfailed⟩ := h.failed record hold
      exact ⟨index, found, fault, getElem?_concat_of_some hfound, hfailed⟩
    · exact ⟨texts.length, text, error, List.getElem?_concat_length, houtcome,
        List.mem_singleton.mp hnew⟩
  case split =>
    rw [Query.addOutcome, List.filterMap_append, ← List.append_assoc, List.length_append,
      List.length_singleton, List.range_succ]
    exact h.split.append_right _
  case queries_increasing => exact h.queries_increasing
  case errors_increasing =>
    rw [Query.addOutcome, List.filterMap_append]
    exact pairwise_concat h.errors_increasing hbelow
  case length_hints => exact h.length_hints_concat [] text
  case hints_of_query =>
    intro query hquery
    exact getElem?_concat_of_some (h.hints_of_query query hquery)
  case hints_of_error =>
    intro record hrecord index hsome
    rcases List.mem_append.mp hrecord with hold | hnew
    · exact getElem?_concat_of_some (h.hints_of_error record hold index hsome)
    · rw [List.mem_singleton.mp hnew] at hsome
      obtain rfl := Option.some.inj hsome
      exact h.getElem?_hints_concat []

end QueryBatch.Accounts

namespace Query

variable (grammar : Grammar)

/-- A batch of one more text. -/
theorem compileAll_concat (texts : List String) (text : String) :
    compileAll grammar (texts ++ [text]) =
      addOutcome (compileAll grammar texts) texts.length (compile grammar texts.length text) := by
  rw [compileAll, List.zipIdx_append, List.foldl_append]
  simp [compileAll]

/-- **Every text is accounted for.**  The induction adds one text after the other. -/
theorem compileAll_accounts (texts : List String) :
    (compileAll grammar texts).Accounts grammar texts := by
  induction texts using List.reverseRecOn with
  | nil => exact ⟨by simp [compileAll], by simp [compileAll], .nil, .nil, .nil, rfl,
      by simp [compileAll], by simp [compileAll]⟩
  | append_singleton texts text ih =>
      rw [compileAll_concat]
      cases houtcome : compile grammar texts.length text with
      | ok query => exact ih.addQuery houtcome
      | error error => exact ih.addError houtcome

/-! ### Failing queries -/

/-- Why a query fails in a search with these settings, if it does. -/
def failure? (settings : Settings) (text : String) : Option SearchError :=
  if settings.mode.isStructural then
    match compile grammar 0 text with
    | .ok _ => none
    | .error error => some error
  else
    match TextPattern.compile grammar.regexes text settings.caseInsensitive with
    | .ok _ => none
    | .error error => some error

/-- The records of the queries that fail, each with the place of its query. -/
def failures (settings : Settings) (texts : List String) : List ErrorRecord :=
  texts.zipIdx.filterMap fun (text, index) =>
    (failure? grammar settings text).map (errorRecord index)

/-- The failures themselves, each with the place of its query. -/
def faults (settings : Settings) (texts : List String) : List (Nat × SearchError) :=
  texts.zipIdx.filterMap fun entry =>
    (failure? grammar settings entry.1).map fun error => (entry.2, error)

variable {grammar}

/-- The records are those of the failures. -/
theorem failures_eq_map_faults {settings : Settings} {texts : List String} :
    failures grammar settings texts =
      (faults grammar settings texts).map fun fault => errorRecord fault.1 fault.2 := by
  rw [failures, faults, List.map_filterMap]
  refine List.filterMap_congr fun entry _ => ?_
  rw [Option.map_map]
  rfl

/-- The outcome of a query does not depend on its place. -/
theorem compile_eq_map (index : Nat) (text : String) :
    compile grammar index text = (compile grammar 0 text).map fun query => { query with index } := by
  unfold compile
  split
  · rfl
  · cases hroot : grammar.parse (grammar.profile.encodeQuery text) with
    | error error => rfl
    | ok root =>
        simp only [bind, Except.bind]
        cases hselected : selectTarget grammar.profile
            ((grammar.profile.body (root.mapText grammar.profile.decodeText)).filter
              grammar.profile.isComparable) with
        | error error => rfl
        | ok selected => rfl

variable {settings : Settings} {texts : List String}

/-- No failure is recorded exactly if no query fails. -/
theorem failures_eq_nil_iff :
    failures grammar settings texts = [] ↔
      ∀ text ∈ texts, failure? grammar settings text = none := by
  rw [failures, List.filterMap_eq_nil_iff]
  simp only [Option.map_eq_none_iff, Prod.forall]
  constructor
  · intro h text htext
    obtain ⟨index, hindex⟩ := List.mem_iff_getElem?.mp htext
    exact h text index (List.mem_zipIdx_iff_getElem?.mpr hindex)
  · intro h text index hmem
    exact h text (List.fst_mem_of_mem_zipIdx hmem)

/-- The failure of one more query is recorded behind the others. -/
theorem failures_concat (text : String) :
    failures grammar settings (texts ++ [text]) = failures grammar settings texts ++
      ((failure? grammar settings text).map (errorRecord texts.length)).toList := by
  simp only [failures, List.zipIdx_append, List.filterMap_append]
  cases hfailure : failure? grammar settings text <;> simp [hfailure]

/-- A batch records the failures of a search that compares trees. -/
theorem errors_compileAll (hmode : settings.mode.isStructural = true) :
    (compileAll grammar texts).errors = failures grammar settings texts := by
  induction texts using List.reverseRecOn with
  | nil => rfl
  | append_singleton texts text ih =>
      rw [compileAll_concat, failures_concat, failure?, if_pos hmode, compile_eq_map]
      cases compile grammar 0 text with
      | ok query => simp [Except.map, addOutcome, ih]
      | error error => simp [Except.map, addOutcome, ih]

end Query

namespace Engine

variable {settings : Settings} {grammar : Grammar} {texts : List String}

/-- Text queries are compiled if none fails; otherwise each failure is returned with its place. -/
theorem compile_of_not_isStructural (hmode : ¬ settings.mode.isStructural = true) :
    TextSearch.compile grammar.regexes texts settings.caseInsensitive =
      if (Query.faults grammar settings texts).isEmpty then
        .ok ⟨texts.filterMap fun query =>
          (TextPattern.compile grammar.regexes query settings.caseInsensitive).toOption⟩
      else .error (Query.faults grammar settings texts) := by
  have hcongr : ∀ {faults others : List (Nat × SearchError)} {search other : TextSearch},
      faults = others → search = other →
      (if faults.isEmpty then Except.ok search else Except.error faults) =
        if others.isEmpty then Except.ok other else Except.error others := by
    intro faults others search other hfaults hsearch
    rw [hfaults, hsearch]
  unfold TextSearch.compile
  refine hcongr ?_ (congrArg TextSearch.mk ?_)
  · rw [List.filterMap_map]
    refine List.filterMap_congr fun (query, index) _ => ?_
    dsimp only [Function.comp_apply, Query.failure?]
    rw [if_neg hmode]
    cases TextPattern.compile grammar.regexes query settings.caseInsensitive <;> rfl
  · have hfst : texts.zipIdx.map Prod.fst = texts := List.zipIdx_map_fst _ _
    nth_rewrite 2 [← hfst]
    rw [List.filterMap_map, List.filterMap_map]
    rfl

/-- A search in text mode is ready exactly if no query fails. -/
theorem prepare_of_not_isStructural (hmode : settings.mode.isStructural = false) :
    prepare settings grammar texts =
      if Query.failures grammar settings texts = [] then
        .ok (.text ⟨texts.filterMap fun query =>
          (TextPattern.compile grammar.regexes query settings.caseInsensitive).toOption⟩)
      else .error (.ofErrors (Query.failures grammar settings texts) (texts.map fun _ => [])) := by
  have hnot : ¬ settings.mode.isStructural = true := by simp [hmode]
  have hcompile := @compile_of_not_isStructural settings grammar texts hnot
  rw [prepare, if_neg hnot, hcompile, Query.failures_eq_map_faults]
  cases Query.faults grammar settings texts with
  | nil => rfl
  | cons fault faults => rfl

/-- **Ready or refused.**  The queries of a search are refused with the records of all failures, or
none fails and they are ready; in both cases there are hints for each of them. -/
theorem prepare_cases :
    (Query.failures grammar settings texts = [] ∧
      ∃ engine, prepare settings grammar texts = .ok engine ∧
        engine.hints.length = texts.length) ∨
    (Query.failures grammar settings texts ≠ [] ∧ ∃ hints, hints.length = texts.length ∧
      prepare settings grammar texts =
        .error (.ofErrors (Query.failures grammar settings texts) hints)) := by
  cases hmode : settings.mode.isStructural with
  | true =>
      have haccounts := Query.compileAll_accounts grammar texts
      have herrors := @Query.errors_compileAll grammar settings texts hmode
      rw [prepare_of_isStructural hmode, QueryBatch.isOk, herrors]
      cases hfailures : Query.failures grammar settings texts with
      | nil =>
          refine Or.inl ⟨rfl, _, rfl, ?_⟩
          have hlength := haccounts.split.length_eq
          rw [herrors, hfailures] at hlength
          simpa [hints] using hlength
      | cons record records =>
          exact Or.inr ⟨List.cons_ne_nil _ _, _, haccounts.length_hints, rfl⟩
  | false =>
      rw [prepare_of_not_isStructural hmode]
      by_cases hnone : Query.failures grammar settings texts = []
      · rw [if_pos hnone]
        refine Or.inl ⟨hnone, _, rfl, ?_⟩
        have hcompiled : ∀ text ∈ texts,
            (TextPattern.compile grammar.regexes text
              settings.caseInsensitive).toOption.isSome = true := by
          intro text htext
          have hok := Query.failures_eq_nil_iff.mp hnone text htext
          rw [Query.failure?, if_neg (by simp [hmode])] at hok
          cases hcompile : TextPattern.compile grammar.regexes text settings.caseInsensitive with
          | ok regex => rfl
          | error error => simp [hcompile] at hok
        rw [hints, List.length_map]
        exact List.filterMap_length_eq_length.mpr hcompiled
      · rw [if_neg hnone]
        exact Or.inr ⟨hnone, _, List.length_map _, rfl⟩

/-- The error of a file names the file. -/
theorem errorsIn_cases (engine : Engine) (file : SourceFile) :
    engine.errorsIn settings file = [] ∨
      ∃ message, engine.errorsIn settings file = [.file file.path message] := by
  unfold errorsIn
  cases engine.searchFile settings file with
  | ok unique => exact Or.inl rfl
  | error error => exact Or.inr ⟨error.message, rfl⟩

end Engine

/-- A file fails with this record: the record names the file, and it is what a plain search of the
file alone reports. -/
structure SourceFile.Fails (settings : Settings) (grammar : Grammar) (texts : List String)
    (file : SourceFile) (record : ErrorRecord) : Prop where
  named : ∃ message, record = .file file.path message
  errors : (search settings.plain grammar [file] texts).errors = [record]

namespace Search

variable {settings : Settings} {grammar : Grammar} {texts : List String}

/-- The errors behind some files are those of the failing ones among them, in their order. -/
theorem exists_failing_of_resultsIn {engine : Engine}
    (hengine : Engine.prepare settings grammar texts = .ok engine) (done : List SourceFile) :
    ∃ failing, failing.Sublist done ∧
      List.Forall₂ (SourceFile.Fails settings grammar texts) failing
        (engine.resultsIn settings done).errors := by
  induction done with
  | nil => exact ⟨[], List.nil_sublist _, .nil⟩
  | cons file done ih =>
      obtain ⟨failing, hsublist, hfails⟩ := ih
      have herrors : (engine.resultsIn settings (file :: done)).errors =
          engine.errorsIn settings file ++ (engine.resultsIn settings done).errors :=
        List.flatMap_cons
      rw [herrors]
      rcases engine.errorsIn_cases file with hnone | ⟨message, hone⟩
      · rw [hnone]
        exact ⟨failing, hsublist.cons file, hfails⟩
      · have hfile : file.Fails settings grammar texts (.file file.path message) := by
          refine ⟨⟨message, rfl⟩, ?_⟩
          rw [search_plain settings grammar [file] texts hengine,
            Engine.errors_resultsIn_singleton, hone]
        rw [hone]
        exact ⟨file :: failing, hsublist.cons_cons file, .cons hfile hfails⟩

variable {σ : Type} (observer : Observer σ) (settings : Settings) (grammar : Grammar) (state : σ)
  (files : List SourceFile) (texts : List String)

/-- The errors of a search are about its queries or about its files.  A search ends with its results
and with a state of its observer. -/
inductive Reports (outcome : Results × σ) : Prop
  /-- queries fail and all of them are reported; nothing is found, and the observer is told nothing -/
  | refused (hfails : ∃ text ∈ texts, Query.failure? grammar settings text ≠ none)
      (hfound : outcome.1.found = []) (hstate : outcome.2 = state)
      (herrors : outcome.1.errors = Query.failures grammar settings texts)
  /-- no query fails; each error is that of a file that was consumed, and these files come in their
  order -/
  | searched (hready : ∀ text ∈ texts, Query.failure? grammar settings text = none)
      (count : Nat) (hcount : Consumes (EndsBehind observer settings
        (fun files => search settings.plain grammar files texts) state) files count)
      (failing : List SourceFile) (hfailing : failing.Sublist (files.take count))
      (herrors : List.Forall₂ (SourceFile.Fails settings grammar texts) failing outcome.1.errors)

/-- **One search.**  It has hints for each query, and its errors are about queries or about files. -/
theorem run_reports :
    let outcome := run observer settings grammar state files texts
    outcome.1.hints.length = texts.length ∧
      Reports observer settings grammar state files texts outcome := by
  intro outcome
  rcases @Engine.prepare_cases settings grammar texts with
    ⟨hnone, engine, hengine, hhints⟩ | ⟨hsome, hints, hlength, hrefused⟩
  · obtain ⟨count, hcount, hrun⟩ := run_of_ok observer settings grammar state files texts hengine
    have hresults : outcome.1 =
        truncate settings (engine.resultsIn settings (files.take count)) := congrArg Prod.fst hrun
    have hplain : (fun files => search settings.plain grammar files texts) =
        engine.resultsIn settings :=
      funext fun files => search_plain settings grammar files texts hengine
    obtain ⟨failing, hfailing, hfails⟩ := exists_failing_of_resultsIn hengine (files.take count)
    constructor
    · rw [hresults, hints_truncate]
      exact hhints
    · refine .searched (Query.failures_eq_nil_iff.mp hnone) count ?_ failing hfailing ?_
      · rw [hplain]
        exact hcount
      · rw [hresults, errors_truncate]
        exact hfails
  · have hrun : outcome = (.ofErrors (Query.failures grammar settings texts) hints, state) :=
      run_of_error observer settings grammar state files texts hrefused
    have hfails : ∃ text ∈ texts, Query.failure? grammar settings text ≠ none := by
      by_contra hall
      refine hsome (Query.failures_eq_nil_iff.mpr fun text htext => ?_)
      by_contra hfault
      exact hall ⟨text, htext, hfault⟩
    rw [hrun]
    exact ⟨hlength, .refused hfails rfl rfl rfl⟩

end Search

/-- **Failures of queries are all or nothing.**  A batch accounts for each of its texts, be it among
the queries or among the errors.  A search of any mode, under any observer, either reports all
failing queries, finds nothing and tells nothing, or no query fails and its errors are those of files
that it consumed, in their order; and it has hints for each query. -/
theorem Query.failures_all_or_nothing (grammar : Grammar) (texts : List String) :
    (compileAll grammar texts).Accounts grammar texts ∧
    ∀ {σ : Type} (observer : Observer σ) (settings : Settings) (state : σ)
      (files : List SourceFile),
      let outcome := Search.run observer settings grammar state files texts
      outcome.1.hints.length = texts.length ∧
        Search.Reports observer settings grammar state files texts outcome :=
  ⟨compileAll_accounts grammar texts, fun observer settings state files =>
    Search.run_reports observer settings grammar state files texts⟩

end StructuralSearch
