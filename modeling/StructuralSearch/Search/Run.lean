import StructuralSearch.Results
import StructuralSearch.Search.Candidates
import StructuralSearch.Search.Dedup
import StructuralSearch.Search.TextPattern

/-!
# Searching files

A search goes through its source files in order.  The matches of a file are made unique, handed to
an observer if there are any, and added to the results; a file that cannot be read, parsed or
matched adds an error record instead.  Between two files the search may end: the observer may ask
for it, the limit may be exceeded, or in debug mode the last file had matches or an error.  At the
very end the limit cuts the matches.

An observer has a state of its own.  It says after each batch of matches what the new state is,
and whether a state asks the search to stop.
-/

namespace StructuralSearch

/-- A file to search: its path, and its text or the reason why it cannot be read. -/
structure SourceFile where
  path : String
  content : Except String String

/-- Who watches a search, with states of type `σ`. -/
structure Observer (σ : Type) where
  /-- the state after the matches of a file were reported -/
  notify : σ → List Match → σ
  /-- whether the search is to stop before the next file -/
  isStopped : σ → Bool

/-- The observer that takes no notice. -/
def Observer.none : Observer Unit :=
  ⟨fun _ _ => (), fun _ => false⟩

/-- The queries of a search, ready to be used. -/
inductive Engine
  | structural (grammar : Grammar) (queries : List Query)
  | text (search : TextSearch)

namespace Engine

/-- Reads the queries of a search; if one of them fails, the results say so. -/
def prepare (settings : Settings) (grammar : Grammar) (queries : List String) :
    Except Results Engine :=
  if settings.mode.isStructural then
    let batch := Query.compileAll grammar queries
    if batch.isOk then .ok (.structural grammar batch.queries)
    else .error (.ofErrors batch.errors batch.hints)
  else
    match TextSearch.compile grammar.regexes queries settings.caseInsensitive with
    | .ok search => .ok (.text search)
    | .error failures =>
      .error (.ofErrors (failures.map fun (index, error) => Query.errorRecord index error)
        (queries.map fun _ => []))

/-- The hints on each query. -/
def hints : Engine → List (List Hint)
  | structural _ queries => queries.map (·.hints)
  | text search => search.patterns.map fun _ => []

/-- The matches of one query in a parsed file. -/
def matchesOfQuery (criteria : Criteria) (path source : String) (root : Node) (query : Query) :
    Except SearchError (List Match) := do
  let spans ← ((criteria.findSpans query.target root).run {}).1
  return spans.map fun span =>
    .ofSpan path span (Text.sliceBytes span.start.offset span.stop.offset source)

/-- The matches of all queries in a file, query by query. -/
def search (engine : Engine) (settings : Settings) (path source : String) :
    Except SearchError (List Match) :=
  match engine with
  | text search => .ok (search.find path source)
  | structural grammar queries => do
    let root ← grammar.parse source
    let criteria : Criteria := ⟨grammar.profile, settings.mode, settings.caseInsensitive⟩
    let found ← queries.mapM (matchesOfQuery criteria path source root)
    return found.flatten

/-- The unique matches of a file, or the reason why there are none. -/
def searchFile (engine : Engine) (settings : Settings) (file : SourceFile) :
    Except SearchError (List Match) :=
  match file.content with
  | .error reason => .error (.unreadable file.path reason)
  | .ok source => (engine.search settings file.path source).map dedup

end Engine

namespace Search

variable {σ : Type} (observer : Observer σ) (settings : Settings)

/-- Whether more matches were found than are asked for. -/
def limitExceeded (results : Results) : Bool :=
  settings.maxResults.any fun limit => limit < results.found.length

/-- Tells the observer about the matches of a file, if there are any. -/
def announce (state : σ) (unique : List Match) : σ :=
  if unique.isEmpty then state else observer.notify state unique

/-- The results with the outcome of one more file. -/
def record (results : Results) (path : String) : Except SearchError (List Match) → Results
  | .ok unique => { results with found := results.found ++ unique }
  | .error error => { results with errors := results.errors ++ [.file path error.message] }

/-- The state of the observer behind one more file. -/
def observe (state : σ) : Except SearchError (List Match) → σ
  | .ok unique => announce observer state unique
  | .error _ => state

/-- Whether debug mode ends the search behind a file with this outcome. -/
def endsDebug : Except SearchError (List Match) → Bool
  | .ok unique => settings.debug && !unique.isEmpty
  | .error _ => settings.debug

/-- Searches the files in order until one of the reasons to end is there. -/
def loop (engine : Engine) (results : Results) (state : σ) : List SourceFile → Results × σ
  | [] => (results, state)
  | file :: files =>
    if observer.isStopped state || limitExceeded settings results then (results, state)
    else
      let outcome := engine.searchFile settings file
      let results := record results file.path outcome
      let state := observe observer state outcome
      if endsDebug settings outcome then (results, state)
      else loop engine results state files

/-- The results with no more matches than are asked for. -/
def truncate (results : Results) : Results :=
  match settings.maxResults with
  | some limit => { results with found := results.found.take limit }
  | none => results

/-- Searches the files for the queries, under the eyes of an observer. -/
def run (grammar : Grammar) (state : σ) (files : List SourceFile) (queries : List String) :
    Results × σ :=
  match Engine.prepare settings grammar queries with
  | .error failed => (failed, state)
  | .ok engine =>
    let (results, state) := loop observer settings engine { hints := engine.hints } state files
    (truncate settings results, state)

end Search

/-- Searches the files for the queries. -/
def search (settings : Settings) (grammar : Grammar) (files : List SourceFile)
    (queries : List String) : Results :=
  (Search.run Observer.none settings grammar () files queries).1

end StructuralSearch
