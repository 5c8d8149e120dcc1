import StructuralSearch.Proofs.SureMatching

/-!
# Searches record no failed matches

A compiled query is made of nodes of a decoded parse of its text, so it is tried on a parsed file
without failure.  The error records of a search then all come from files that could not be read or
parsed.
-/

namespace StructuralSearch

/-- A node that was parsed was built from the parse tree of its text. -/
theorem Grammar.exists_tree_of_parse {grammar : Grammar} {source : String} {root : Node}
    (h : grammar.parse source = .ok root) :
    ∃ tree, grammar.parser source = some tree ∧ root = (grammar.builder source).build tree := by
  unfold parse at h
  split at h
  · cases h
  · rename_i tree htree
    split at h
    · cases h
    · exact ⟨tree, htree, (Except.ok.inj h).symm⟩

/-- What was parsed is a node of a file. -/
theorem Grammar.builds_of_parse {grammar : Grammar} {source : String} {root : Node}
    (h : grammar.parse source = .ok root) : grammar.Builds root := by
  obtain ⟨tree, -, rfl⟩ := exists_tree_of_parse h
  exact ⟨source, tree, Node.mem_walk_self _⟩

/-- The content of a wrapped statement stands in the statement. -/
theorem Profile.unwrapStatement_mem_walk (profile : Profile) (statement : Node) :
    profile.unwrapStatement statement ∈ statement.walk := by
  unfold unwrapStatement
  split
  · split
    · rename_i inner hinner
      exact Node.mem_walk_of_mem_children (by simp [hinner])
    · exact Node.mem_walk_self statement
  · exact Node.mem_walk_self statement

namespace Query

variable {grammar : Grammar}

/-- The target that is selected from statements is made of nodes that stand below them. -/
theorem mem_walk_of_selectTarget {profile : Profile} {statements : List Node}
    {target : QueryTarget} {hints : List Hint}
    (h : selectTarget profile statements = .ok (target, hints)) :
    ∀ node ∈ target.nodes profile, ∃ statement ∈ statements, node ∈ statement.walk := by
  unfold selectTarget at h
  split at h
  · cases h
  · rename_i statement
    obtain ⟨rfl, -⟩ := Prod.mk.inj (Except.ok.inj h)
    intro node hnode
    obtain rfl : node = targetOfStatement profile statement := by
      simpa [QueryTarget.nodes] using hnode
    refine ⟨statement, List.mem_singleton_self _, ?_⟩
    unfold targetOfStatement
    dsimp only
    split
    · exact Node.mem_walk_self statement
    · exact profile.unwrapStatement_mem_walk statement
  · obtain ⟨rfl, -⟩ := Prod.mk.inj (Except.ok.inj h)
    intro node hnode
    rw [QueryTarget.nodes, Profile.body_blockOf] at hnode
    exact ⟨node, hnode, Node.mem_walk_self node⟩

/-- A query compiles exactly if its encoded form is parsed and a target is selected from the
statements of the decoded tree. -/
theorem compile_eq_ok_iff {index : Nat} {text : String} {query : Query} :
    compile grammar index text = .ok query ↔ Text.isBlankText text = false ∧
      ∃ root target hints, grammar.parse (grammar.profile.encodeQuery text) = .ok root ∧
        selectTarget grammar.profile
          ((grammar.profile.body (root.mapText grammar.profile.decodeText)).filter
            grammar.profile.isComparable) = .ok (target, hints) ∧
        query = { index, text, target, hints } := by
  unfold compile
  cases hblank : Text.isBlankText text with
  | true => simp
  | false =>
      cases hroot : grammar.parse (grammar.profile.encodeQuery text) with
      | error e => simp [bind, Except.bind]
      | ok root =>
          cases hselected : selectTarget grammar.profile
              ((grammar.profile.body (root.mapText grammar.profile.decodeText)).filter
                grammar.profile.isComparable) with
          | error e => simp [bind, Except.bind, hselected]
          | ok selected =>
              obtain ⟨target, hints⟩ := selected
              simp [bind, Except.bind, hselected, pure, Except.pure, eq_comm]

/-- **Compiled queries are parsed trees.**  The nodes of a compiled query are nodes of the parse of
its text, with the markers put back into the texts. -/
theorem buildsQuery_of_compile {index : Nat} {text : String} {query : Query}
    (h : compile grammar index text = .ok query) :
    ∀ node ∈ query.target.nodes grammar.profile, grammar.BuildsQuery node := by
  obtain ⟨-, root, target, hints, hroot, hselected, rfl⟩ := compile_eq_ok_iff.mp h
  obtain ⟨tree, -, rfl⟩ := Grammar.exists_tree_of_parse hroot
  intro node hnode
  obtain ⟨statement, hstatement, hwalk⟩ := mem_walk_of_selectTarget hselected node hnode
  exact ⟨_, tree, Node.mem_walk_trans hwalk (Criteria.mem_walk_of_mem_body
    (Node.mem_walk_self _) (List.mem_of_mem_filter hstatement))⟩

/-- A compiled query is tried without failure on a file whose tokens are of kinds without fields. -/
theorem verdict_ok_of_compile {criteria : Criteria} (hprofile : criteria.profile = grammar.profile)
    {index : Nat} {text : String} {query : Query} {root : Node}
    (hquery : compile grammar index text = .ok query) (hroot : grammar.Builds root)
    (hbare : root.Everywhere grammar.layout.BareToken) :
    ∀ wanted ∈ query.target.nodes criteria.profile, ∀ file ∈ root.walk,
      ∃ found, criteria.verdict wanted file = .ok found := by
  intro wanted hwanted file hfile
  rw [hprofile] at hwanted
  exact Criteria.verdict_ok_of_builds (buildsQuery_of_compile hquery wanted hwanted)
    (hroot.visited hfile) (hbare.visited hfile)

/-- Every query of a batch was compiled from a text, and every error of a batch is about a query. -/
theorem compileAll_sound (grammar : Grammar) (texts : List String) :
    (∀ query ∈ (compileAll grammar texts).queries, ∃ index text,
      compile grammar index text = .ok query) ∧
    ∀ record ∈ (compileAll grammar texts).errors, record.isQuery := by
  refine List.foldlRecOn (motive := fun batch : QueryBatch =>
    (∀ query ∈ batch.queries, ∃ index text, compile grammar index text = .ok query) ∧
      ∀ record ∈ batch.errors, record.isQuery) _ _ ⟨by simp, by simp⟩ ?_
  rintro batch ⟨hqueries, herrors⟩ ⟨text, index⟩ -
  dsimp only
  cases houtcome : compile grammar index text with
  | ok compiled =>
      refine ⟨fun query hquery => ?_, herrors⟩
      rcases List.mem_append.mp hquery with hold | hnew
      · exact hqueries query hold
      · rw [List.mem_singleton.mp hnew]
        exact ⟨index, text, houtcome⟩
  | error e =>
      refine ⟨hqueries, fun record hrecord => ?_⟩
      rcases List.mem_append.mp hrecord with hold | hnew
      · exact herrors record hold
      · rw [List.mem_singleton.mp hnew]
        rfl

/-- A query that compiles makes a batch by itself. -/
theorem compileAll_singleton {text : String} {query : Query}
    (h : compile grammar 0 text = .ok query) :
    compileAll grammar [text] = { queries := [query], hints := [query.hints] } := by
  simp only [compileAll, List.zipIdx_cons, List.zipIdx_nil, List.foldl_cons, List.foldl_nil, h]
  rfl

end Query

/-- A file cannot be used, for the reason that a message gives: it could not be read, or its text
could not be parsed. -/
def SourceFile.Unusable (grammar : Grammar) (file : SourceFile) (message : String) : Prop :=
  (∃ reason, file.content = .error reason ∧
    message = (SearchError.unreadable file.path reason).message) ∨
  ∃ source line column, file.content = .ok source ∧
    grammar.parse source = .error (.parse line column message)

/-- The tokens of a file that can be parsed are of kinds without fields. -/
def SourceFile.HasBareTokens (grammar : Grammar) (file : SourceFile) : Prop :=
  ∀ source root, file.content = .ok source → grammar.parse source = .ok root →
    root.Everywhere grammar.layout.BareToken

namespace Engine

/-- The match of a span in a file with this text. -/
def matchOfSpan (path source : String) (span : Span) : Match :=
  .ofSpan path span (Text.sliceBytes span.start.offset span.stop.offset source)

variable {grammar : Grammar} {settings : Settings} {texts : List String} {engine : Engine}

/-- The queries of an engine that compares trees were all compiled. -/
theorem exists_compile_of_prepare {engineGrammar : Grammar} {queries : List Query}
    (hengine : prepare settings grammar texts = .ok (.structural engineGrammar queries)) :
    engineGrammar = grammar ∧ ∀ query ∈ queries, ∃ index text,
      Query.compile grammar index text = .ok query := by
  unfold prepare at hengine
  split at hengine
  · dsimp only at hengine
    split at hengine
    · obtain ⟨rfl, rfl⟩ := Engine.structural.inj (Except.ok.inj hengine)
      exact ⟨rfl, (Query.compileAll_sound _ texts).1⟩
    · cases hengine
  · split at hengine <;> cases hengine

/-- If the queries of a search fail, the errors are about queries. -/
theorem isQuery_of_prepare_error {failed : Results}
    (h : prepare settings grammar texts = .error failed) :
    ∀ record ∈ failed.errors, record.isQuery := by
  unfold prepare at h
  split at h
  · dsimp only at h
    split at h
    · cases h
    · obtain rfl := Except.error.inj h
      exact (Query.compileAll_sound grammar texts).2
  · split at h
    · cases h
    · obtain rfl := Except.error.inj h
      intro record hrecord
      obtain ⟨failure, -, rfl⟩ := List.mem_map.mp hrecord
      rfl

/-- The matches of one query in a file are those of its spans, if its nodes match all nodes of the
file without failure. -/
theorem matchesOfQuery_eq_ok {criteria : Criteria} {query : Query} {root : Node}
    (h : ∀ wanted ∈ query.target.nodes criteria.profile, ∀ node ∈ root.walk,
      ∃ found, criteria.verdict wanted node = .ok found) (path source : String) :
    matchesOfQuery criteria path source root query =
      .ok ((criteria.spans query.target root).map (matchOfSpan path source)) := by
  have hrun : ((criteria.findSpans query.target root).run {}).1 =
      .ok (criteria.spans query.target root) := (Criteria.yields_findSpans h).outcome_eq
  unfold matchesOfQuery
  rw [hrun]
  rfl

/-- The matches of all queries in a file are those of their spans, if their nodes match all nodes of
the file without failure. -/
theorem matchesOfQueries_eq_ok {criteria : Criteria} {root : Node} {queries : List Query}
    (h : ∀ query ∈ queries, ∀ wanted ∈ query.target.nodes criteria.profile, ∀ node ∈ root.walk,
      ∃ found, criteria.verdict wanted node = .ok found) (path source : String) :
    queries.mapM (matchesOfQuery criteria path source root) =
      .ok (queries.map fun query =>
        (criteria.spans query.target root).map (matchOfSpan path source)) := by
  induction queries with
  | nil => rfl
  | cons query queries ih =>
      have hlater := ih fun other hother => h other (List.mem_cons_of_mem _ hother)
      rw [List.mapM_cons, hlater, matchesOfQuery_eq_ok (h query List.mem_cons_self)]
      rfl

/-- A text that was not parsed has a fault with a place. -/
theorem parse_error_eq {source : String} {e : SearchError}
    (h : grammar.parse source = .error e) :
    ∃ line column message, e = .parse line column message := by
  unfold Grammar.parse at h
  split at h
  · exact ⟨_, _, _, (Except.error.inj h).symm⟩
  · split at h
    · exact ⟨_, _, _, (Except.error.inj h).symm⟩
    · cases h

/-- The matches of a file that was parsed are those of its queries, one after another. -/
theorem search_structural {queries : List Query} {path source : String} {root : Node}
    (hroot : grammar.parse source = .ok root) :
    (structural grammar queries).search settings path source =
      (queries.mapM (matchesOfQuery ⟨grammar.profile, settings.mode, settings.caseInsensitive⟩
        path source root)).map List.flatten := by
  simp only [search, hroot, bind, Except.bind]
  split <;> rename_i hfound <;> rw [hfound] <;> rfl

/-- No query fails on a file whose tokens are of kinds without fields. -/
theorem exists_matches_of_bareTokens {queries : List Query}
    (hengine : prepare settings grammar texts = .ok (.structural grammar queries))
    {file : SourceFile} (hbare : file.HasBareTokens grammar) {source : String} {root : Node}
    (hcontent : file.content = .ok source) (hroot : grammar.parse source = .ok root) :
    ∃ found, queries.mapM (matchesOfQuery ⟨grammar.profile, settings.mode,
      settings.caseInsensitive⟩ file.path source root) = .ok found := by
  refine ⟨_, matchesOfQueries_eq_ok (fun query hquery => ?_) file.path source⟩
  obtain ⟨index, text, hcompile⟩ := (exists_compile_of_prepare hengine).2 query hquery
  exact Query.verdict_ok_of_compile rfl hcompile (Grammar.builds_of_parse hroot)
    (hbare source root hcontent hroot)

/-- Files whose tokens are of kinds without fields give an error only if they cannot be used. -/
theorem unusable_of_searchFile_error (hengine : prepare settings grammar texts = .ok engine)
    {file : SourceFile} (hbare : file.HasBareTokens grammar) {e : SearchError}
    (he : engine.searchFile settings file = .error e) : file.Unusable grammar e.message := by
  unfold searchFile at he
  cases hcontent : file.content with
  | error reason =>
      rw [hcontent] at he
      obtain rfl := Except.error.inj he
      exact Or.inl ⟨reason, hcontent, rfl⟩
  | ok source =>
      rw [hcontent] at he
      cases engine with
      | text search => cases he
      | structural engineGrammar queries =>
          obtain ⟨rfl, -⟩ := exists_compile_of_prepare hengine
          cases hroot : engineGrammar.parse source with
          | error fault =>
              obtain ⟨line, column, message, rfl⟩ := parse_error_eq hroot
              simp only [search, hroot, bind, Except.bind, Except.map] at he
              obtain rfl := Except.error.inj he
              exact Or.inr ⟨source, line, column, hcontent, hroot⟩
          | ok root =>
              obtain ⟨found, hfound⟩ := exists_matches_of_bareTokens hengine hbare hcontent hroot
              simp only [search_structural hroot, hfound, Except.map] at he
              cases he

end Engine

namespace Search

variable {σ : Type} {observer : Observer σ} {settings : Settings}

/-- Every error record of a loop was there before or is that of a file. -/
theorem errors_of_loop {engine : Engine} {results : Results} {state : σ} {files : List SourceFile}
    {record : ErrorRecord}
    (h : record ∈ (loop observer settings engine results state files).1.errors) :
    record ∈ results.errors ∨ ∃ file ∈ files, ∃ e,
      engine.searchFile settings file = .error e ∧ record = .file file.path e.message := by
  induction files generalizing results state with
  | nil => exact Or.inl h
  | cons file files ih =>
      have hhere : record ∈
          (Search.record results file.path (engine.searchFile settings file)).errors →
          record ∈ results.errors ∨ ∃ other ∈ file :: files, ∃ e,
            engine.searchFile settings other = .error e ∧
              record = .file other.path e.message := by
        intro hmem
        cases houtcome : engine.searchFile settings file with
        | ok unique =>
            rw [houtcome] at hmem
            exact Or.inl hmem
        | error e =>
            rw [houtcome] at hmem
            rcases List.mem_append.mp hmem with hold | hnew
            · exact Or.inl hold
            · exact Or.inr ⟨file, List.mem_cons_self, e, houtcome, List.mem_singleton.mp hnew⟩
      unfold loop at h
      split at h
      · exact Or.inl h
      · dsimp only at h
        split at h
        · exact hhere h
        · rcases ih h with hmem | ⟨other, hother, hlater⟩
          · exact hhere hmem
          · exact Or.inr ⟨other, List.mem_cons_of_mem _ hother, hlater⟩

/-- Cutting the matches leaves the errors alone. -/
theorem errors_truncate (results : Results) :
    (truncate settings results).errors = results.errors := by
  unfold truncate
  split <;> rfl

/-- Cutting the matches leaves the hints alone. -/
theorem hints_truncate (results : Results) :
    (truncate settings results).hints = results.hints := by
  unfold truncate
  split <;> rfl

/-- **No failed match is recorded.**  If the tokens of the files are of kinds without fields, every
error record of a file says why the file could not be read or parsed. -/
theorem unusable_of_error_of_run {grammar : Grammar} {state : σ} {files : List SourceFile}
    {texts : List String} (hbare : ∀ file ∈ files, file.HasBareTokens grammar)
    {path message : String}
    (h : .file path message ∈ (run observer settings grammar state files texts).1.errors) :
    ∃ file ∈ files, file.path = path ∧ file.Unusable grammar message := by
  unfold run at h
  split at h
  · rename_i failed hfailed
    have hquery := Engine.isQuery_of_prepare_error hfailed _ h
    cases hquery
  · rename_i engine hengine
    dsimp only at h
    rw [errors_truncate] at h
    rcases errors_of_loop h with hnone | ⟨file, hfile, e, he, hrecord⟩
    · simp at hnone
    · obtain ⟨rfl, rfl⟩ := ErrorRecord.file.inj hrecord
      exact ⟨file, hfile, rfl, Engine.unusable_of_searchFile_error hengine (hbare file hfile) he⟩

end Search

/-! ### A language of calls

In this language a program is a list of calls, and an argument may also be the word `call`, a token
of the kind that calls have. -/

namespace Calls

def profile : Profile where
  language := .python
  identifierKinds := ["name"]
  stringKinds := []
  numberKinds := []
  programKind := "program"
  blockKind := "block"

def layout : Layout where
  kinds := [("program", { hasChildren := true }),
    ("call", { single := ["function"], multiple := ["argument"] })]

/-- A tree without faults in a text of one line. -/
def tree (kind : String) (field : Option String) (start stop : Nat)
    (children : List ParseTree) : ParseTree where
  kind := kind
  named := true
  extra := false
  isError := false
  isMissing := false
  hasError := false
  field := field
  start := ⟨start, 0, start⟩
  stop := ⟨stop, 0, stop⟩
  children := children

/-- An argument that is a name. -/
def name (start stop : Nat) : ParseTree :=
  tree "name" (some "argument") start stop []

/-- An argument that is the word `call`. -/
def word (start stop : Nat) : ParseTree :=
  { tree "call" (some "argument") start stop [] with named := false }

/-- A call of a function with a name of one letter, as an argument. -/
def call (start stop : Nat) (arguments : List ParseTree) : ParseTree :=
  tree "call" (some "argument") start stop
    (tree "name" (some "function") start (start + 1) [] :: arguments)

/-- A text that is one call. -/
def program (stop : Nat) (arguments : List ParseTree) : ParseTree :=
  tree "program" none 0 stop [{ call 0 stop arguments with field := none }]

def grammar : Grammar where
  profile := profile
  layout := layout
  parser
    | "f(a)" => some (program 4 [name 2 3])
    | "f(call)" => some (program 7 [word 2 6])
    | "f(g(a))" => some (program 7 [call 2 6 [name 4 5]])
    | "f($$$,g(a))" => some (program 11 [name 2 5, call 6 10 [name 8 9]])
    | "f(call,g(a))" => some (program 12 [word 2 6, call 7 11 [name 9 10]])
    | "f(b,c,g(a))" => some (program 11 [name 2 3, name 4 5, call 6 10 [name 8 9]])
    | "f(c,g(a))" => some (program 9 [name 2 3, call 4 8 [name 6 7]])
    | "f(g(a),c)" => some (program 9 [call 2 6 [name 4 5], name 7 8])
    | "f(a,a)" => some (program 6 [name 2 3, name 4 5])
    | "f($,a)" => some (program 6 [name 2 3, name 4 5])
    | _ => none

/-- The node of a text. -/
def node (text : String) : Node :=
  ((grammar.builder text).build ((grammar.parser text).getD (program 0 [])))

theorem builds_node (text : String) : grammar.Builds (node text) :=
  ⟨text, _, Node.mem_walk_self _⟩

/-- The node of a query. -/
def queryNode (text : String) : Node :=
  (node text).mapText profile.decodeText

theorem buildsQuery_node (text : String) : grammar.BuildsQuery (queryNode text) :=
  ⟨text, _, Node.mem_walk_self _⟩

/-- The call that a query consists of. -/
def queryCall (text : String) : Node :=
  (profile.body (queryNode text)).headD (queryNode text)

/-- The call that a text consists of. -/
def fileCall (text : String) : Node :=
  (profile.body (node text)).headD (node text)

/-- The node of a tree over a text that need not be one of those the parser knows. -/
def nodeOf (text : String) (tree : ParseTree) : Node :=
  (grammar.builder text).build tree

theorem builds_nodeOf (text : String) (tree : ParseTree) : grammar.Builds (nodeOf text tree) :=
  ⟨text, tree, Node.mem_walk_self _⟩

/-- The node of a query with such a tree. -/
def queryNodeOf (text : String) (tree : ParseTree) : Node :=
  (nodeOf text tree).mapText profile.decodeText

theorem buildsQuery_queryNodeOf (text : String) (tree : ParseTree) :
    grammar.BuildsQuery (queryNodeOf text tree) :=
  ⟨text, tree, Node.mem_walk_self _⟩

end Calls

/-- Where a token is of a kind with fields, a match of built trees may fail: the argument of
`f(call)` lacks the fields that the argument of `f(g(a))` has. -/
theorem token_with_fields_fails :
    Calls.grammar.BuildsQuery (Calls.queryNode "f(g(a))") ∧
    Calls.grammar.Builds (Calls.node "f(call)") ∧
    (Criteria.validate ⟨Calls.profile, .exact, false⟩
        (Calls.queryNode "f(g(a))") (Calls.node "f(call)") {}).1 =
      .error (.fieldsMissing "call" "call" [] ["argument", "function"]) :=
  ⟨Calls.buildsQuery_node _, Calls.builds_node _, by decide +kernel⟩

/-- **Built trees are matched without failure.**  Built nodes have the shape of the layout.  If the
tokens of the files are of kinds without fields, then no match of a query node with a file node
fails, in any mode, nor does one of sequences or of statements, nor a compiled query on a file, and a
search has error records only for files that could not be read or parsed. -/
theorem neverFails_of_bareTokens (grammar : Grammar) (mode : Mode) (caseInsensitive : Bool) :
    let criteria : Criteria := ⟨grammar.profile, mode, caseInsensitive⟩
    let bare := fun file : Node => file.Everywhere grammar.layout.BareToken
    (∀ node, grammar.Builds node ∨ grammar.BuildsQuery node →
      node.Everywhere grammar.layout.Fits) ∧
    (∀ query file, grammar.BuildsQuery query → grammar.Builds file → bare file →
      Matching.NeverFails (criteria.validate query file)) ∧
    (∀ queries files, (∀ query ∈ queries, grammar.BuildsQuery query) →
      (∀ file ∈ files, grammar.Builds file ∧ bare file) →
      Matching.NeverFails (criteria.validateSequence queries files) ∧
      Matching.NeverFails (criteria.matchStatements queries files)) ∧
    (∀ index text query root, Query.compile grammar index text = .ok query →
      grammar.Builds root → bare root →
      Matching.NeverFails (criteria.findSpans query.target root)) ∧
    ∀ (σ : Type) (observer : Observer σ) (settings : Settings) (state : σ)
      (files : List SourceFile) (texts : List String),
      (∀ file ∈ files, file.HasBareTokens grammar) → ∀ path message,
      .file path message ∈ (Search.run observer settings grammar state files texts).1.errors →
      ∃ file ∈ files, file.path = path ∧ file.Unusable grammar message := by
  refine ⟨?shape, ?nodes, ?sequences, ?queries, ?searches⟩
  case shape =>
    rintro node (hfile | hquery)
    · exact hfile.everywhere_fits
    · exact hquery.everywhere_fits
  case nodes =>
    intro query file hquery hfile hbare
    exact Criteria.neverFails_validate (Criteria.verdict_ok_of_builds hquery hfile hbare)
  case sequences =>
    intro queries files hqueries hfiles
    have hverdicts : ∀ query ∈ queries, ∀ file ∈ files, ∃ found,
        Criteria.verdict ⟨grammar.profile, mode, caseInsensitive⟩ query file = .ok found :=
      fun query hquery file hfile => Criteria.verdict_ok_of_builds (hqueries query hquery)
        (hfiles file hfile).1 (hfiles file hfile).2
    exact ⟨Criteria.neverFails_validateSequence hverdicts,
      Criteria.neverFails_matchStatements hverdicts⟩
  case queries =>
    intro index text query root hquery hroot hbare
    exact Criteria.neverFails_findSpans (Query.verdict_ok_of_compile rfl hquery hroot hbare)
  case searches =>
    intro σ observer settings state files texts hbare path message hrecord
    exact Search.unusable_of_error_of_run hbare hrecord

/-- `f(a)` is tried on `f(g(a))` and on a text that cannot be parsed. -/
theorem calls_neverFail :
    let criteria : Criteria := ⟨Calls.profile, .exact, false⟩
    let files : List SourceFile := [⟨"good", .ok "f(g(a))"⟩, ⟨"bad", .ok "f("⟩]
    Matching.NeverFails (criteria.validate (Calls.queryNode "f(a)") (Calls.node "f(g(a))")) ∧
    Matching.NeverFails
      (criteria.validateSequence [Calls.queryNode "f(a)"] [Calls.node "f(g(a))"]) ∧
    (∃ query, Query.compile Calls.grammar 0 "f(a)" = .ok query ∧
      Matching.NeverFails (criteria.findSpans query.target (Calls.node "f(g(a))"))) ∧
    ∃ file ∈ files, file.path = "bad" ∧ file.Unusable Calls.grammar "parsing failed" := by
  have hbare : (Calls.node "f(g(a))").Everywhere Calls.layout.BareToken := by decide
  have hfile := Calls.builds_node "f(g(a))"
  have hquery := Calls.buildsQuery_node "f(a)"
  obtain ⟨-, hnodes, hsequences, hqueries, hsearches⟩ :=
    neverFails_of_bareTokens Calls.grammar .exact false
  refine ⟨hnodes _ _ hquery hfile hbare, (hsequences _ _ ?_ ?_).1, ?_, ?_⟩
  · simpa using hquery
  · simpa using ⟨hfile, hbare⟩
  · have hcompiled : (Query.compile Calls.grammar 0 "f(a)").toBool = true := by decide +kernel
    cases hcompile : Query.compile Calls.grammar 0 "f(a)" with
    | error e => simp [hcompile, Except.toBool] at hcompiled
    | ok query => exact ⟨query, rfl, hqueries 0 _ query _ hcompile hfile hbare⟩
  · refine hsearches Unit Observer.none {} () _ ["f(a)"] ?_ "bad" "parsing failed" ?_
    · intro file hmem source root hcontent hroot
      rcases List.mem_pair.mp hmem with rfl | rfl
      · obtain rfl := Except.ok.inj hcontent
        obtain rfl : Calls.node "f(g(a))" = root := Except.ok.inj hroot
        exact hbare
      · obtain rfl := Except.ok.inj hcontent
        cases hroot
    · decide +kernel

end StructuralSearch
