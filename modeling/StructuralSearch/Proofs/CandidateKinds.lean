import StructuralSearch.Profile.Tables
import StructuralSearch.Proofs.BuiltTexts
import StructuralSearch.Proofs.SureSearch

/-!
# Matches that are not tried

A query of one node is tried on the nodes whose kinds may be compared with its own.  Names may stand
for one another, and other nodes match only nodes of their own kind, so nothing is lost there.  Yet
literals match within their family, and a family may have several kinds: a literal of another kind
than that of the query is never tried, though it would match.

`mem_spans_node_iff` says which matches are reported, and `matches_reported_by_kind` what this comes
to for compiled queries and parsed files.  `number_lost` is a number that the wildcard for all
numbers does not report.
-/

namespace StructuralSearch

namespace Profile

variable (profile : Profile)

/-- The families of literals. -/
def literalFamilies : List (List String) :=
  [profile.stringKinds, profile.textKinds, profile.numberKinds]

/-- The kinds of literals that literals of a kind can match. -/
def literalFamily (kind : String) : List String :=
  (profile.literalFamilies.filter (·.contains kind)).flatten

/-- The kinds of literals that have other kinds in their family. -/
def mixedKinds : List String :=
  (profile.literalFamilies.filter (1 < ·.length)).flatten

/-- A node that is compared as a literal: a string, free text or a number that is no name. -/
def IsLiteral (node : Node) : Prop :=
  ¬ profile.isIdentifier node ∧
    (profile.isString node ∨ profile.isText node ∨ profile.isNumber node)

/-- The number that stands for all numbers. -/
structure IsNumberWildcard (node : Node) : Prop where
  /-- the node is compared as a number -/
  number : profile.isNumber node
  /-- and not as something else -/
  notIdentifier : ¬ profile.isIdentifier node
  notString : ¬ profile.isString node
  notText : ¬ profile.isText node
  text : node.text = some numberWildcard

variable {profile}

/-- Two kinds of literals are of one family if both are kinds of strings, of text or of numbers. -/
theorem mem_literalFamily_iff {kind other : String} :
    other ∈ profile.literalFamily kind ↔
      ∃ family ∈ profile.literalFamilies, kind ∈ family ∧ other ∈ family := by
  simp only [literalFamily, List.mem_flatten, List.mem_filter, List.contains_iff_mem]
  constructor
  · rintro ⟨family, ⟨hfamily, hkind⟩, hother⟩
    exact ⟨family, hfamily, hkind, hother⟩
  · rintro ⟨family, hfamily, hkind, hother⟩
    exact ⟨family, ⟨hfamily, hkind⟩, hother⟩

/-- Only literals of mixed kinds can match literals of other kinds. -/
theorem eq_of_mem_literalFamily {kind other : String} (hkind : kind ∉ profile.mixedKinds)
    (h : other ∈ profile.literalFamily kind) : other = kind := by
  obtain ⟨family, hfamily, hmem, hother⟩ := mem_literalFamily_iff.mp h
  have hsmall : family.length ≤ 1 := by
    by_contra hlarge
    apply hkind
    refine List.mem_flatten.mpr ⟨family, List.mem_filter.mpr ⟨hfamily, ?_⟩, hmem⟩
    simpa using hlarge
  match family, hsmall with
  | [], _ => simp at hmem
  | [only], _ =>
      rw [List.mem_singleton.mp hmem, List.mem_singleton.mp hother]

/-- In HTML no family has more than one kind, and in the script family only that of strings has. -/
example : html.mixedKinds = [] ∧ typescript.mixedKinds = ["string", "string_fragment"] := by
  decide

/-- In the known languages numbers are nothing but numbers. -/
theorem isNumberWildcard_ofLanguage (language : Language) {node : Node}
    (hnumber : (ofLanguage language).isNumber node) (htext : node.text = some numberWildcard) :
    (ofLanguage language).IsNumberWildcard node := by
  have hapart := keepsApart_ofLanguage language
  obtain ⟨hstring, hnotText⟩ := hapart.isNot_of_isNumber hnumber
  have hname : (ofLanguage language).isIdentifier node = false := by
    by_contra his
    rw [Bool.not_eq_false] at his
    simp [(hapart.isNot_of_isIdentifier his).2.1] at hnumber
  exact ⟨hnumber, by simp [hname], by simp [hstring], by simp [hnotText], htext⟩

end Profile

namespace Criteria

open Matching

variable {criteria : Criteria}

/-- A literal is decided alone. -/
theorem decidedAlone_of_isLiteral {query : Node} (h : criteria.profile.IsLiteral query) :
    criteria.DecidedAlone query :=
  Or.inr (Or.inr h.2)

/-- What is decided alone matches the nodes that are settled at its level. -/
theorem verdict_eq_true_iff_settled {query file : Node} (h : criteria.DecidedAlone query) :
    criteria.verdict query file = .ok true ↔ criteria.compareLevel file query = .settled := by
  rw [verdict_eq_true_iff]
  simp [h]

/-- A literal that is no wildcard is settled by literals of its family only. -/
theorem mem_literalFamily_of_verdict {query file : Node}
    (hnone : criteria.profile.nodeWildcard? query = none)
    (hliteral : criteria.profile.IsLiteral query)
    (h : criteria.verdict query file = .ok true) :
    file.kind ∈ criteria.profile.literalFamily query.kind := by
  have hlevel := (verdict_eq_true_iff_settled (decidedAlone_of_isLiteral hliteral)).mp h
  obtain ⟨hname, hfamily⟩ := hliteral
  rw [Profile.mem_literalFamily_iff]
  -- before it looks at the texts, the comparison asks for two strings, two texts or two numbers
  simp only [compareLevel, hnone, hname, Comparison.ofBool, sameLiteralFamily] at hlevel
  grind [Profile.literalFamilies, Profile.isString, Profile.isText, Profile.isNumber]

/-- **Which matches are tried.**  A node that matches is tried, unless the query node is a literal
and the node is of another kind. -/
theorem areAlternatives_iff_of_verdict {query file : Node}
    (hnone : criteria.profile.nodeWildcard? query = none)
    (h : criteria.verdict query file = .ok true) :
    criteria.profile.areAlternatives query.kind file.kind = true ↔
      (criteria.profile.IsLiteral query → file.kind = query.kind) := by
  by_cases hname : criteria.profile.isIdentifier query
  · -- names are settled by names, whose kinds may stand for one another
    have halone : criteria.DecidedAlone query := Or.inr (Or.inl hname)
    have hlevel := (verdict_eq_true_iff_settled halone).mp h
    obtain ⟨-, halternatives, -⟩ := (settled_iff_of_isIdentifier hnone file hname).mp hlevel
    exact iff_of_true halternatives fun hliteral => absurd hname hliteral.1
  · rw [areAlternatives_iff_of_not_identifier hname]
    by_cases hliteral : criteria.profile.IsLiteral query
    · simp [hliteral, eq_comm]
    · have halone : ¬ criteria.DecidedAlone query := by
        rintro (hwildcard | hidentifier | hothers)
        · simp [hnone] at hwildcard
        · exact hname hidentifier
        · exact hliteral ⟨hname, hothers⟩
      rcases criteria.verdict_eq_true_iff.mp h with hsettled | ⟨-, hagree, -⟩
      · exact absurd (criteria.decidedAlone_of_settled hsettled) halone
      · exact iff_of_true hagree.kind fun hmem => absurd hmem hliteral

/-- There is a verdict on every node if the query node is decided alone. -/
theorem verdict_ok_of_decidedAlone {query : Node} (h : criteria.DecidedAlone query) (file : Node) :
    ∃ found, criteria.verdict query file = .ok found := by
  rw [verdict_eq]
  rcases criteria.compareLevel_of_decidedAlone h file with hlevel | hlevel
  · rw [hlevel]
    exact ⟨true, rfl⟩
  · rw [hlevel]
    exact ⟨false, rfl⟩

/-- Such a query node is searched without failure. -/
theorem neverFails_findSpans_of_decidedAlone {target : Node} (h : criteria.DecidedAlone target)
    (root : Node) : NeverFails (criteria.findSpans (.node target) root) := by
  refine neverFails_findSpans fun wanted hwanted file _ => ?_
  obtain rfl : wanted = target := by simpa [QueryTarget.nodes] using hwanted
  exact verdict_ok_of_decidedAlone h file

/-- The wildcard for numbers matches all numbers that have a text. -/
theorem verdict_of_isNumberWildcard {query file : Node}
    (h : criteria.profile.IsNumberWildcard query) (hfile : criteria.profile.isNumber file)
    (htext : file.text.isSome) : criteria.verdict query file = .ok true := by
  have halone : criteria.DecidedAlone query := Or.inr (Or.inr (Or.inr (Or.inr h.number)))
  obtain ⟨text, htext⟩ := Option.isSome_iff_exists.mp htext
  have hquery : criteria.profile.literalValue? query = some numberWildcard := by
    simp [Profile.literalValue?, h.number, h.text]
  have hvalue : criteria.profile.literalValue? file = some text := by
    simp [Profile.literalValue?, hfile, htext]
  rw [verdict_eq_true_iff_settled halone]
  simp [compareLevel, Profile.nodeWildcard?, h.notIdentifier, h.notString, h.notText, h.number,
    hfile, hquery, hvalue, numberMatches, Comparison.ofBool]

/-- If a query of one node does not fail on a file, what it finds are the spans of the candidates
that match. -/
theorem eq_spans_of_outcome {target root : Node} {spans : List Span}
    (hnone : criteria.profile.nodeWildcard? target = none)
    (h : outcome (criteria.findSpans (.node target) root) = .ok spans) :
    spans = criteria.spans (.node target) root := by
  have hfind : criteria.findSpans (.node target) root = criteria.spansOfNode target root.walk := by
    simp [findSpans, hnone]
  rw [hfind, (criteria.yields_spansOfNode target root.walk).outcome_eq] at h
  have htried : ∀ node ∈ root.walk,
      criteria.profile.areAlternatives target.kind node.kind = true →
        ∃ found, criteria.verdict target node = .ok found := by
    intro node hnode hkind
    obtain ⟨kept, hkept⟩ := ok_of_filterMapM h node (List.mem_filter.mpr ⟨hnode, hkind⟩)
    cases hverdict : criteria.verdict target node with
    | error e => simp [hverdict, bind, Except.bind] at hkept
    | ok found => exact ⟨found, rfl⟩
  have hspans := (yields_spansOfNode_of_ok htried).outcome_eq
  rw [(criteria.yields_spansOfNode target root.walk).outcome_eq, h] at hspans
  rw [Except.ok.inj hspans, Criteria.spans]
  simp [hnone]

/-- **Which matches are reported.**  A query of one node reports the spans of all nodes that match;
of a literal, only of those that are of its own kind. -/
theorem mem_spans_node_iff {target root : Node} {span : Span}
    (hnone : criteria.profile.nodeWildcard? target = none) :
    span ∈ criteria.spans (.node target) root ↔
      ∃ node ∈ root.walk, node.span = span ∧ criteria.verdict target node = .ok true ∧
        (criteria.profile.IsLiteral target → node.kind = target.kind) := by
  simp only [spans, hnone, Option.isSome_none, Bool.false_eq_true, if_false, List.mem_map,
    List.mem_filter, isMatch_iff]
  constructor
  · rintro ⟨node, ⟨⟨hnode, hkind⟩, hmatch⟩, rfl⟩
    exact ⟨node, hnode, rfl, hmatch, (areAlternatives_iff_of_verdict hnone hmatch).mp hkind⟩
  · rintro ⟨node, hnode, rfl, hmatch, hkind⟩
    exact ⟨node, ⟨⟨hnode, (areAlternatives_iff_of_verdict hnone hmatch).mpr hkind⟩, hmatch⟩, rfl⟩

end Criteria

/-- **Where matches are lost.**  A query that is one node and no wildcard reports all nodes of a
file that match, unless it is a literal: of a literal it reports those matches that are of its own
kind.  So nothing is lost if the kind of the query has no other kinds in its literal family.  The
wildcard for numbers matches every number of a file and reports those of its own kind. -/
theorem Query.matches_reported_by_kind {grammar : Grammar} (mode : Mode) (caseInsensitive : Bool)
    {index : Nat} {text source : String} {query : Query} {target root : Node}
    (hquery : Query.compile grammar index text = .ok query) (htarget : query.target = .node target)
    (hnone : grammar.profile.nodeWildcard? target = none)
    (hroot : grammar.parse source = .ok root) :
    let criteria : Criteria := ⟨grammar.profile, mode, caseInsensitive⟩
    let matching := fun node : Node => criteria.verdict target node = .ok true
    (root.Everywhere grammar.layout.BareToken ∨ grammar.profile.IsLiteral target →
      Matching.NeverFails (criteria.findSpans query.target root)) ∧
    ∀ spans, Matching.outcome (criteria.findSpans query.target root) = .ok spans →
      (∀ span, span ∈ spans ↔ ∃ node ∈ root.walk, node.span = span ∧ matching node ∧
        (grammar.profile.IsLiteral target → node.kind = target.kind)) ∧
      (target.kind ∉ grammar.profile.mixedKinds →
        ∀ node ∈ root.walk, matching node → node.span ∈ spans) ∧
      (grammar.profile.IsNumberWildcard target →
        ∀ node ∈ root.walk, grammar.profile.isNumber node →
          matching node ∧ (node.kind = target.kind → node.span ∈ spans)) := by
  intro criteria matching
  rw [htarget]
  constructor
  · rintro (hbare | hliteral)
    · rw [← htarget]
      exact Criteria.neverFails_findSpans
        (Query.verdict_ok_of_compile rfl hquery (Grammar.builds_of_parse hroot) hbare)
    · exact Criteria.neverFails_findSpans_of_decidedAlone
        (Criteria.decidedAlone_of_isLiteral hliteral) root
  · intro spans hspans
    obtain rfl := Criteria.eq_spans_of_outcome hnone hspans
    have hreport : ∀ node ∈ root.walk, matching node →
        (grammar.profile.IsLiteral target → node.kind = target.kind) →
        node.span ∈ criteria.spans (.node target) root :=
      fun node hnode hmatch hkind =>
        (Criteria.mem_spans_node_iff hnone).mpr ⟨node, hnode, rfl, hmatch, hkind⟩
    refine ⟨fun span => Criteria.mem_spans_node_iff hnone, ?_, ?_⟩
    · intro hsingle node hnode hmatch
      refine hreport node hnode hmatch fun hliteral => ?_
      exact Profile.eq_of_mem_literalFamily hsingle
        (Criteria.mem_literalFamily_of_verdict hnone hliteral hmatch)
    · intro hwildcard node hnode hnumber
      have htext : node.text.isSome := ((Grammar.builds_of_parse hroot).visited hnode).text_isSome
        (Profile.keepsText_of_isNumber hnumber)
      have hmatch : matching node :=
        Criteria.verdict_of_isNumberWildcard hwildcard hnumber htext
      exact ⟨hmatch, fun hkind => hreport node hnode hmatch fun _ => hkind⟩

/-! ### A language of numbers

A program is a number, written with a point or without one. -/

namespace Numbers

def layout : Layout where
  kinds := [("module", { hasChildren := true }), ("expression_statement", { hasChildren := true })]

/-- A text that is one number. -/
def program (kind : String) (stop : Nat) : ParseTree :=
  Calls.tree "module" none 0 stop
    [Calls.tree "expression_statement" none 0 stop [Calls.tree kind none 0 stop []]]

def grammar : Grammar where
  profile := .python
  layout := layout
  parser
    | "0x0" => some (program "integer" 3)
    | "12" => some (program "integer" 2)
    | "1.5" => some (program "float" 3)
    | _ => none

/-- The stretch of a text of one line. -/
def line (stop : Nat) : Span :=
  ⟨⟨1, 1, 0⟩, ⟨1, stop + 1, stop⟩⟩

/-- A number that is the whole of a text. -/
def number (kind text : String) (stop : Nat) : Node :=
  { kind, span := line stop, text := some text }

/-- A statement that is one number. -/
def statement (kind text : String) (stop : Nat) : Node :=
  { kind := "expression_statement", span := line stop,
    fields := [("children", .sequence [number kind text stop])] }

/-- The node of a text that is one number. -/
def file (kind text : String) (stop : Nat) : Node :=
  { kind := "module", span := line stop,
    fields := [("children", .sequence [statement kind text stop])] }

/-- The number of a file is visited. -/
theorem number_mem_walk_file (kind text : String) (stop : Nat) :
    number kind text stop ∈ (file kind text stop).walk := by
  have hnumber : number kind text stop ∈ (statement kind text stop).sequence "children" :=
    List.mem_singleton_self _
  have hstatement : statement kind text stop ∈ (file kind text stop).sequence "children" :=
    List.mem_singleton_self _
  exact Node.mem_walk_trans (Node.mem_walk_of_mem_sequence hnumber)
    (Node.mem_walk_of_mem_sequence hstatement)

/-- The query for all numbers. -/
theorem compile_wildcard :
    Query.compile grammar 0 "0x0" = .ok ⟨0, "0x0", .node (number "integer" "0x0" 3), []⟩ := by
  have hblank : ¬ Text.isBlankText "0x0" = true := by decide +kernel
  have hencode : grammar.profile.encodeQuery "0x0" = "0x0" := by decide +kernel
  have hparse : grammar.parse "0x0" = .ok (file "integer" "0x0" 3) := rfl
  have hdecode : (file "integer" "0x0" 3).mapText grammar.profile.decodeText =
      file "integer" "0x0" 3 := by
    have htext : grammar.profile.decodeText "0x0" = "0x0" := by decide +kernel
    simp [file, statement, number, Node.mapText, Node.mapTextFields, Node.mapTextValue,
      Node.mapTextAll, htext]
  have hselect : Query.selectTarget grammar.profile
      ((grammar.profile.body (file "integer" "0x0" 3)).filter grammar.profile.isComparable) =
      .ok (.node (number "integer" "0x0" 3), []) := rfl
  rw [Query.compile, if_neg hblank, hencode, hparse]
  simp only [bind, Except.bind, hdecode, hselect]
  rfl

end Numbers

/-- The wildcard for numbers is written without a point and reports `12`, which is written so too.
-/
theorem number_reported :
    let criteria : Criteria := ⟨Numbers.grammar.profile, .exact, false⟩
    ∃ spans, Matching.outcome (criteria.findSpans (.node (Numbers.number "integer" "0x0" 3))
        (Numbers.file "integer" "12" 2)) = .ok spans ∧ Numbers.line 2 ∈ spans := by
  intro criteria
  have hwildcard : Numbers.grammar.profile.IsNumberWildcard (Numbers.number "integer" "0x0" 3) :=
    Profile.isNumberWildcard_ofLanguage .python rfl rfl
  have hparse : Numbers.grammar.parse "12" = .ok (Numbers.file "integer" "12" 2) := rfl
  obtain ⟨hnever, hreported⟩ := Query.matches_reported_by_kind .exact false
    Numbers.compile_wildcard rfl (by decide) hparse
  have hliteral : Numbers.grammar.profile.IsLiteral (Numbers.number "integer" "0x0" 3) :=
    ⟨hwildcard.notIdentifier, Or.inr (Or.inr hwildcard.number)⟩
  obtain ⟨spans, hspans⟩ := hnever (Or.inr hliteral) {}
  obtain ⟨-, -, hnumbers⟩ := hreported spans hspans
  refine ⟨spans, hspans, ?_⟩
  exact (hnumbers hwildcard _ (Numbers.number_mem_walk_file "integer" "12" 2) rfl).2 rfl

/-- The wildcard for numbers does not report `1.5`, in no mode, though it matches this number. -/
theorem number_lost :
    let wildcard := Numbers.number "integer" "0x0" 3
    let number := Numbers.number "float" "1.5" 3
    let file := Numbers.file "float" "1.5" 3
    Query.compile Numbers.grammar 0 "0x0" = .ok ⟨0, "0x0", .node wildcard, []⟩ ∧
    Numbers.grammar.profile.nodeWildcard? wildcard = none ∧
    Numbers.grammar.parse "1.5" = .ok file ∧ number ∈ file.walk ∧
    Numbers.grammar.profile.isNumber number = true ∧
    ∀ mode caseInsensitive,
      let criteria : Criteria := ⟨Numbers.grammar.profile, mode, caseInsensitive⟩
      criteria.verdict wildcard number = .ok true ∧
      Matching.outcome (criteria.findSpans (.node wildcard) file) = .ok [] := by
  refine ⟨Numbers.compile_wildcard, by decide, rfl, Numbers.number_mem_walk_file _ _ _, rfl, ?_⟩
  intro mode caseInsensitive
  cases mode <;> cases caseInsensitive <;> decide +kernel

end StructuralSearch
