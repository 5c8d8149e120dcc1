import StructuralSearch.Proofs.QueryReports

/-!
# Which query words an error

A file has at most one error record, however many queries fail on it.  A file that cannot be read or
parsed fails whatever is looked for.  On a file that can, the queries are tried in their order, and the
first one that fails ends the search of the file.

The key local fact is `Engine.failure?_eq`: what a list of texts does to a file is known from what each
text does to it by itself.  So the record of a file is the one that the first failing text leaves in a
plain search of the file for nothing else (`SourceFile.errorsIn_ofTexts_eq_firstRecord?`).  Texts that
leave the same record can be put in any order (`SourceFile.FailsAlike.firstRecord?_eq`), as all texts
can if the tokens of the file are of kinds without fields (`SourceFile.failsAlike_of_bareTokens`).
-/

namespace StructuralSearch

/-! ### Engines of texts -/

/-- What a text asks for, if it compiles. -/
def Query.target? (grammar : Grammar) (text : String) : Option QueryTarget :=
  (compile grammar 0 text).toOption.map (·.target)

/-- The targets of a batch are those of its texts, in their order. -/
theorem Query.targets_compileAll (grammar : Grammar) (texts : List String) :
    (compileAll grammar texts).queries.map (·.target) = texts.filterMap (target? grammar) := by
  induction texts using List.reverseRecOn with
  | nil => rfl
  | append_singleton texts text ih =>
      rw [compileAll_concat, compile_eq_map, List.filterMap_append, ← ih]
      cases hcompile : compile grammar 0 text with
      | ok query => simp [addOutcome, Except.map, target?, hcompile, Except.toOption]
      | error e => simp [addOutcome, Except.map, target?, hcompile, Except.toOption]

namespace Engine

/-- The engine of the texts that compile. -/
def ofTexts (settings : Settings) (grammar : Grammar) (texts : List String) : Engine :=
  if settings.mode.isStructural then
    .structural grammar (Query.compileAll grammar texts).queries
  else
    .text ⟨texts.filterMap fun text =>
      (TextPattern.compile grammar.regexes text settings.caseInsensitive).toOption⟩

variable {settings : Settings} {grammar : Grammar} {texts : List String}

/-- If no text fails, a search uses the engine of all texts. -/
theorem prepare_of_ready (hready : ∀ text ∈ texts, Query.failure? grammar settings text = none) :
    prepare settings grammar texts = .ok (ofTexts settings grammar texts) := by
  have hnone := Query.failures_eq_nil_iff.mpr hready
  unfold ofTexts
  cases hmode : settings.mode.isStructural with
  | true =>
      rw [prepare_of_isStructural hmode, QueryBatch.isOk, Query.errors_compileAll hmode, hnone]
      rfl
  | false =>
      rw [prepare_of_not_isStructural hmode, if_pos hnone]
      rfl

/-! ### Outcomes that fail -/

/-- The failure of an outcome, if it is one. -/
def failureOf? {ε α : Type} : Except ε α → Option ε
  | .ok _ => none
  | .error e => some e

theorem eq_error_of_failureOf? {ε α : Type} {outcome : Except ε α} {e : ε}
    (h : failureOf? outcome = some e) : outcome = .error e := by
  cases outcome with
  | ok a => cases h
  | error e' => rw [Option.some.inj h]

/-- Mapping a list fails with the failure of its first element that fails. -/
theorem failureOf?_mapM {ε α β : Type} (f : α → Except ε β) (xs : List α) :
    failureOf? (xs.mapM f) = xs.findSome? fun x => failureOf? (f x) := by
  induction xs with
  | nil => rfl
  | cons x xs ih =>
      rw [List.mapM_cons, List.findSome?_cons, ← ih]
      cases hfirst : f x with
      | error e => rfl
      | ok first => cases hothers : xs.mapM f <;> rfl

/-- What is done with an outcome leaves its failure alone. -/
theorem failureOf?_map {ε α β : Type} (f : α → β) (outcome : Except ε α) :
    failureOf? (outcome.map f) = failureOf? outcome := by
  cases outcome <;> rfl

/-- A query fails on a parsed file if its target does. -/
theorem failureOf?_matchesOfQuery (criteria : Criteria) (path source : String) (root : Node)
    (query : Query) :
    failureOf? (matchesOfQuery criteria path source root query) =
      failureOf? ((criteria.findSpans query.target root).run {}).1 := by
  unfold matchesOfQuery
  cases ((criteria.findSpans query.target root).run {}).1 <;> rfl

/-- The first element that is kept and gives something is the first that is kept with it. -/
theorem findSome?_filterMap {α β γ : Type} (f : α → Option β) (g : β → Option γ) (xs : List α) :
    (xs.filterMap f).findSome? g = xs.findSome? fun x => (f x).bind g := by
  induction xs with
  | nil => rfl
  | cons x xs ih =>
      cases hkept : f x with
      | none =>
          rw [List.filterMap_cons_none hkept, List.findSome?_cons, hkept, ih]
          rfl
      | some y =>
          rw [List.filterMap_cons_some hkept, List.findSome?_cons, List.findSome?_cons, hkept, ih]
          rfl

section

variable (settings : Settings) (grammar : Grammar) (texts : List String) (file : SourceFile)

/-- Why a file fails in a search for some texts, if it does. -/
def failure? : Option SearchError :=
  failureOf? ((ofTexts settings grammar texts).searchFile settings file)

/-- The record of a file words its failure. -/
theorem errorsIn_ofTexts :
    (ofTexts settings grammar texts).errorsIn settings file =
      ((failure? settings grammar texts file).map fun e => .file file.path e.message).toList := by
  unfold errorsIn failure?
  cases (ofTexts settings grammar texts).searchFile settings file <;> rfl

variable {settings grammar file}

/-- A file whose text cannot be parsed fails whatever is looked for. -/
theorem failure?_of_parse_error (hmode : settings.mode.isStructural = true) {source : String}
    (hcontent : file.content = .ok source) {e : SearchError}
    (hroot : grammar.parse source = .error e) :
    failure? settings grammar texts file = some e := by
  simp only [failure?, searchFile, hcontent, ofTexts, if_pos hmode, search, hroot, bind, Except.bind,
    Except.map, failureOf?]

/-- A file whose text can be parsed fails with the failure of the first target that fails. -/
theorem failure?_of_parse (hmode : settings.mode.isStructural = true) {source : String}
    (hcontent : file.content = .ok source) {root : Node} (hroot : grammar.parse source = .ok root) :
    failure? settings grammar texts file =
      texts.findSome? fun text => (Query.target? grammar text).bind fun target =>
        failureOf? ((Criteria.findSpans ⟨grammar.profile, settings.mode,
          settings.caseInsensitive⟩ target root).run {}).1 := by
  simp only [failure?, searchFile, hcontent, ofTexts, if_pos hmode]
  rw [failureOf?_map, search_structural hroot, failureOf?_map, failureOf?_mapM,
    ← findSome?_filterMap, ← Query.targets_compileAll, List.findSome?_map]
  simp only [failureOf?_matchesOfQuery, Function.comp_def]

variable (settings grammar file)

/-- A file that cannot be used fails whatever is looked for; otherwise the first text that fails on it
decides. -/
theorem failure?_eq :
    failure? settings grammar texts file = (failure? settings grammar [] file).or
      (texts.findSome? fun text => failure? settings grammar [text] file) := by
  cases hcontent : file.content with
  | error reason => simp only [failure?, searchFile, hcontent, failureOf?, Option.some_or]
  | ok source =>
      cases hmode : settings.mode.isStructural with
      | false =>
          have hnever : ∀ texts, failure? settings grammar texts file = none := by
            intro texts
            simp [failure?, searchFile, hcontent, ofTexts, hmode, search, Except.map, failureOf?]
          rw [hnever, hnever, Option.none_or]
          exact (List.findSome?_eq_none_iff.mpr fun text _ => hnever [text]).symm
      | true =>
          cases hroot : grammar.parse source with
          | error e => simp only [failure?_of_parse_error _ hmode hcontent hroot, Option.some_or]
          | ok root =>
              simp only [failure?_of_parse _ hmode hcontent hroot, List.findSome?_nil,
                Option.none_or, List.findSome?_singleton]

end

end Engine

namespace SourceFile

variable (settings : Settings) (grammar : Grammar) (texts : List String) (file : SourceFile)

/-- The error record of a file in a plain search of the file alone, if there is one. -/
def record? : Option ErrorRecord :=
  (search settings.plain grammar [file] texts).errors.head?

/-- The error record of a file that cannot be used, or of the first text that fails on it.  The former
is there even if nothing is looked for. -/
def firstRecord? : Option ErrorRecord :=
  (file.record? settings grammar []).or
    (texts.findSome? fun text => file.record? settings grammar [text])

/-- The texts that fail on a file by themselves all leave the same record. -/
def FailsAlike : Prop :=
  ∀ text ∈ texts, ∀ other ∈ texts, ∀ record record',
    file.record? settings grammar [text] = some record →
    file.record? settings grammar [other] = some record' → record = record'

variable {settings grammar texts file} {others : List String}

/-- The record of a file words its failure, if no text fails to compile. -/
theorem record?_eq (hready : ∀ text ∈ texts, Query.failure? grammar settings text = none) :
    file.record? settings grammar texts =
      (Engine.failure? settings grammar texts file).map fun e => .file file.path e.message := by
  rw [record?, Search.search_plain settings grammar [file] texts (Engine.prepare_of_ready hready),
    Engine.errors_resultsIn_singleton, Engine.errorsIn_ofTexts, Option.head?_toList]

/-- **The first text words the error.** -/
theorem errorsIn_ofTexts_eq_firstRecord?
    (hready : ∀ text ∈ texts, Query.failure? grammar settings text = none) :
    (Engine.ofTexts settings grammar texts).errorsIn settings file =
      (file.firstRecord? settings grammar texts).toList := by
  have hnothing : file.record? settings grammar [] =
      (Engine.failure? settings grammar [] file).map fun e => .file file.path e.message :=
    record?_eq (by simp)
  have heach : (texts.findSome? fun text => file.record? settings grammar [text]) =
      (texts.findSome? fun text => Engine.failure? settings grammar [text] file).map
        fun e => .file file.path e.message := by
    rw [List.map_findSome?, ← List.head?_filterMap, ← List.head?_filterMap]
    refine congrArg List.head? (List.filterMap_congr fun text htext => ?_)
    refine record?_eq fun one hone => ?_
    exact hready one (List.mem_singleton.mp hone ▸ htext)
  rw [Engine.errorsIn_ofTexts, Engine.failure?_eq, firstRecord?, hnothing, heach]
  cases Engine.failure? settings grammar [] file <;> rfl

/-- If the texts that fail on a file leave the same record, their order does not matter. -/
theorem FailsAlike.firstRecord?_eq (h : file.FailsAlike settings grammar texts)
    (hsame : ∀ text, text ∈ texts ↔ text ∈ others) :
    file.firstRecord? settings grammar texts = file.firstRecord? settings grammar others := by
  unfold firstRecord?
  congr 1
  cases hfirst : texts.findSome? fun text => file.record? settings grammar [text] with
  | none =>
      refine (List.findSome?_eq_none_iff.mpr fun text htext => ?_).symm
      exact List.findSome?_eq_none_iff.mp hfirst text ((hsame text).mpr htext)
  | some record =>
      obtain ⟨text, htext, hrecord⟩ := List.exists_of_findSome?_eq_some hfirst
      cases hother : others.findSome? fun text => file.record? settings grammar [text] with
      | none =>
          have hnone := List.findSome?_eq_none_iff.mp hother text ((hsame text).mp htext)
          rw [hrecord] at hnone
          cases hnone
      | some record' =>
          obtain ⟨other, hmem, hrecord'⟩ := List.exists_of_findSome?_eq_some hother
          rw [h text htext other ((hsame other).mpr hmem) record record' hrecord hrecord']

/-- There is one reason why a file cannot be used. -/
theorem Unusable.eq {message message' : String} (h : file.Unusable grammar message)
    (h' : file.Unusable grammar message') : message = message' := by
  rcases h with ⟨reason, hcontent, rfl⟩ | ⟨source, line, column, hcontent, hroot⟩
  · rcases h' with ⟨reason', hcontent', rfl⟩ | ⟨source', line', column', hcontent', hroot'⟩
    · rw [hcontent] at hcontent'
      rw [Except.error.inj hcontent']
    · rw [hcontent] at hcontent'
      cases hcontent'
  · rcases h' with ⟨reason', hcontent', rfl⟩ | ⟨source', line', column', hcontent', hroot'⟩
    · rw [hcontent] at hcontent'
      cases hcontent'
    · rw [hcontent] at hcontent'
      obtain rfl := Except.ok.inj hcontent'
      rw [hroot] at hroot'
      exact (SearchError.parse.inj (Except.error.inj hroot')).2.2

/-- Where the tokens of a file are of kinds without fields, it fails only if it cannot be used. -/
theorem failsAlike_of_bareTokens (hbare : file.HasBareTokens grammar)
    (hready : ∀ text ∈ texts, Query.failure? grammar settings text = none) :
    file.FailsAlike settings grammar texts := by
  have hunusable : ∀ text ∈ texts, ∀ record, file.record? settings grammar [text] = some record →
      ∃ message, record = .file file.path message ∧ file.Unusable grammar message := by
    intro text htext record hrecord
    have hone : ∀ one ∈ [text], Query.failure? grammar settings one = none := by
      intro one hone
      exact hready one (List.mem_singleton.mp hone ▸ htext)
    rw [record?_eq hone] at hrecord
    obtain ⟨e, he, rfl⟩ := Option.map_eq_some_iff.mp hrecord
    exact ⟨e.message, rfl, Engine.unusable_of_searchFile_error (Engine.prepare_of_ready hone) hbare
      (Engine.eq_error_of_failureOf? he)⟩
  intro text htext other hother record record' hrecord hrecord'
  obtain ⟨message, rfl, hmessage⟩ := hunusable text htext record hrecord
  obtain ⟨message', rfl, hmessage'⟩ := hunusable other hother record' hrecord'
  rw [hmessage.eq hmessage']

end SourceFile

end StructuralSearch
