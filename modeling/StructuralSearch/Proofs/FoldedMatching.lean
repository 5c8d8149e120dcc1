import StructuralSearch.Proofs.FoldedPatterns
import StructuralSearch.Proofs.Generalising
import StructuralSearch.Proofs.SelfMatching

/-!
# Matches when case is ignored

Ignoring case changes nothing but the comparison of names, strings, free text and numbers.  For numbers
it makes more equal and no less, and for the others it is a matter of the patterns: those of settled `Σ`
keep the texts that they describe.  So on the level of single nodes nothing is lost
(`compareLevel_ignoringCase`), and from there `verdict_ignoringCase` goes down the query tree.

What can come in between is once more a rest wildcard.  With more matches the element behind it gets
further in the nodes on which it is tried first, and fails if it comes to a token of a kind with fields.
-/

namespace StructuralSearch

open Text

/-- Each `Σ` in the texts of names, strings and free text is settled. -/
def Profile.SettledText (profile : Profile) (node : Node) : Prop :=
  (profile.isIdentifier node || profile.isString node || profile.isText node) = true →
    ∀ text ∈ node.text, Settled text.toList

instance (profile : Profile) (node : Node) : Decidable (profile.SettledText node) :=
  inferInstanceAs (Decidable (_ → ∀ text ∈ node.text, Settled text.toList))

namespace Criteria

/-- The same criteria, but letter case is ignored. -/
def ignoringCase (criteria : Criteria) : Criteria :=
  { criteria with caseInsensitive := true }

variable {criteria : Criteria}

section Nodes

/-! ### Single nodes -/

variable (hcase : criteria.caseInsensitive = false)
include hcase

/-- A text of settled `Σ` still describes the texts that it describes with letter case. -/
theorem textMatches_ignoringCase {query file : Option String}
    (hsettled : ∀ text ∈ query, Settled text.toList) (h : criteria.textMatches query file = true) :
    criteria.ignoringCase.textMatches query file = true := by
  match query, file with
  | none, none => rfl
  | none, some _ | some _, none => cases h
  | some pattern, some text =>
      simp only [textMatches, fold, hcase, Bool.false_eq_true, if_false] at h
      exact (lowercase_keeps_matches_iff pattern).mpr (hsettled pattern rfl) text h

/-- A number still describes the numbers that it describes with letter case. -/
theorem numberMatches_ignoringCase {query file : Option String}
    (h : criteria.numberMatches query file = true) :
    criteria.ignoringCase.numberMatches query file = true := by
  match query, file with
  | none, _ | some _, none => cases h
  | some wanted, some value =>
      simp only [numberMatches, fold, hcase, Bool.false_eq_true, if_false, Bool.or_eq_true,
        beq_iff_eq] at h ⊢
      exact h.imp_right fun heq => by rw [heq]

/-- **Nodes when case is ignored.**  What settles a query node with letter case also settles it
without. -/
theorem compareLevel_ignoringCase {query file : Node}
    (hsettled : criteria.profile.SettledText query)
    (h : criteria.compareLevel file query = .settled) :
    criteria.ignoringCase.compareLevel file query = .settled := by
  cases hwildcard : criteria.profile.nodeWildcard? query with
  | some wildcard => simp [compareLevel, ignoringCase, hwildcard]
  | none =>
      have hnone : criteria.ignoringCase.profile.nodeWildcard? query = none := hwildcard
      by_cases hname : criteria.profile.isIdentifier query
      · obtain ⟨hfile, halternatives, htexts⟩ :=
          (settled_iff_of_isIdentifier hwildcard file hname).mp h
        have htexts' := textMatches_ignoringCase hcase (hsettled (by simp [hname])) htexts
        exact (settled_iff_of_isIdentifier hnone file hname).mpr ⟨hfile, halternatives, htexts'⟩
      · rw [Bool.not_eq_true] at hname
        by_cases hliteral : criteria.profile.isString query || criteria.profile.isText query
        · obtain ⟨hfamily, htexts⟩ :=
            (settled_iff_of_isLiteral hwildcard file hname hliteral).mp h
          have hvalue : ∀ text ∈ criteria.profile.literalValue? query, Settled text.toList := by
            rw [literalValue?_of_literal hliteral]
            exact hsettled (by rwa [Bool.or_assoc, hname, Bool.false_or])
          exact (settled_iff_of_isLiteral hnone file hname hliteral).mpr
            ⟨hfamily, textMatches_ignoringCase hcase hvalue htexts⟩
        · rw [Bool.not_eq_true] at hliteral
          by_cases hnumber : criteria.profile.isNumber query
          · obtain ⟨hfile, hvalues⟩ :=
              (settled_iff_of_isNumber hwildcard file hname hliteral hnumber).mp h
            exact (settled_iff_of_isNumber hnone file hname hliteral hnumber).mpr
              ⟨hfile, numberMatches_ignoringCase hcase hvalues⟩
          · obtain ⟨hstring, htext⟩ := Bool.or_eq_false_iff.mp hliteral
            have halone := criteria.decidedAlone_of_settled h
            simp [DecidedAlone, hwildcard, hname, hstring, htext, hnumber] at halone

end Nodes

/-! ### Trees -/

/-- Values that match with letter case match without, if the nodes in them do, and if there are verdicts
on all pairs of these or none is a rest wildcard. -/
theorem valueVerdict_ignoringCase (hexact : criteria.mode = .exact) {value actual : FieldValue Node}
    (hnodes : ∀ query ∈ value.nodes, ∀ file ∈ actual.nodes,
      criteria.verdict query file = .ok true → criteria.ignoringCase.verdict query file = .ok true)
    (hsure : (∀ query ∈ value.nodes, ∀ file ∈ actual.nodes,
        ∃ found, criteria.ignoringCase.verdict query file = .ok found) ∨
      ∀ query ∈ value.nodes, criteria.profile.elementWildcard? query ≠ some .rest)
    (h : criteria.valueVerdict value actual = .ok true) :
    criteria.ignoringCase.valueVerdict value actual = .ok true := by
  unfold valueVerdict validateValue at h ⊢
  split at h
  · exact hnodes _ (List.mem_singleton_self _) _ (List.mem_singleton_self _) h
  · rfl
  · rename_i queries files
    have haligned : Aligned _ _ _ _ :=
      aligned_of_searchSequence hexact ((criteria.sequenceVerdict_eq queries files).symm.trans h)
    have hexact' : criteria.ignoringCase.mode = .exact := hexact
    refine sequenceVerdict_of_aligned hexact' ?_ hsure
    refine haligned.mono (fun _ _ => Iff.rfl) fun query hquery _ file hfile haccepts => ?_
    rw [acceptsNode_iff] at haccepts ⊢
    exact haccepts.imp_right (hnodes query (List.mem_of_mem_filter hquery) file
      (List.mem_of_mem_filter hfile))
  · exact h
  · cases h

/-- **Trees when case is ignored.**  A query of settled `Σ` that matches a file node with letter case
matches it without, if the file nodes have all fields of their kinds or if no rest wildcard is in the
query. -/
theorem verdict_ignoringCase (hexact : criteria.mode = .exact)
    (hcase : criteria.caseInsensitive = false) {layout : Layout} {query file : Node}
    (hfits : query.Everywhere layout.Fits)
    (hsettled : query.Everywhere criteria.profile.SettledText)
    (hsure : file.Everywhere layout.Covers ∨
      query.Everywhere fun node => criteria.profile.nodeWildcard? node ≠ some .rest)
    (h : criteria.verdict query file = .ok true) :
    criteria.ignoringCase.verdict query file = .ok true := by
  induction query using Node.induction_on_children generalizing file with
  | step query ih =>
      rw [verdict_eq_true_iff] at h ⊢
      rcases h with hlevel | ⟨halone, hagree, hfields⟩
      · exact Or.inl (compareLevel_ignoringCase hcase hsettled.self hlevel)
      · refine Or.inr ⟨halone, hagree, fun name value hmem hcompared => ?_⟩
        obtain ⟨actual, hactual, hmatch⟩ := hfields name value hmem hcompared
        have hchild : ∀ child ∈ value.nodes, child ∈ query.children := fun child hchild =>
          Node.mem_children_iff.mpr ⟨name, value, hmem, hchild⟩
        have hother : ∀ other ∈ actual.nodes, other ∈ file.children := fun other hother =>
          Node.mem_children_of_field? hactual hother
        refine ⟨actual, hactual, valueVerdict_ignoringCase hexact ?nodes ?sure hmatch⟩
        case nodes =>
          intro child hmemChild other hmemOther
          have hbelow := hchild child hmemChild
          exact ih child hbelow (hfits.child hbelow) (hsettled.child hbelow)
            (hsure.imp (fun hcovers => hcovers.child (hother other hmemOther)) fun hnone =>
              hnone.child hbelow)
        case sure =>
          refine hsure.imp (fun hcovers child hmemChild other hmemOther => ?_)
            fun hnone child hmemChild => ?_
          · exact verdict_ok_of_fits (hfits.child (hchild child hmemChild))
              (hcovers.child (hother other hmemOther))
          · exact hnone.child (hchild child hmemChild) _ child.innermost_mem_walk

/-- **Ignoring case keeps matches.**  Let a built query match a built file node in exact mode with letter
case.  Then it does so without, if every `Σ` in its names, strings and free text is settled, and if the
tokens of the file are of kinds without fields or the query holds no `$$$`.  A pattern that matches a
text matches it in lower case, for all texts, exactly if every `Σ` in it is settled. -/
theorem matches_kept_ignoring_case (grammar : Grammar) :
    (∀ query file tally tally', grammar.Builds query ∨ grammar.BuildsQuery query →
      grammar.Builds file →
      file.Everywhere grammar.layout.BareToken ∨
        (query.Everywhere fun node => grammar.profile.nodeWildcard? node ≠ some .rest) →
      query.Everywhere grammar.profile.SettledText →
      (validate ⟨grammar.profile, .exact, false⟩ query file tally).1 = .ok true →
      (validate ⟨grammar.profile, .exact, true⟩ query file tally').1 = .ok true) ∧
    ∀ pattern, (∀ text, fragmentsMatch pattern text = true →
      fragmentsMatch (lowercase pattern) (lowercase text) = true) ↔ Settled pattern.toList := by
  refine ⟨?trees, lowercase_keeps_matches_iff⟩
  case trees =>
    intro query file tally tally' hquery hfile hsure hsettled h
    have hfits : query.Everywhere grammar.layout.Fits :=
      hquery.elim (fun hbuilds => hbuilds.everywhere_fits) fun hbuilds => hbuilds.everywhere_fits
    rw [validate_fst_eq] at h ⊢
    exact verdict_ignoringCase rfl rfl hfits hsettled (hsure.imp_left hfile.everywhere_covers) h

end Criteria

namespace Calls

/-- The tree of `f($$$,g($Σb,h(a)))`. -/
def sigmaQuery : ParseTree :=
  program 19 [name 2 5, call 6 18 [name 8 12, call 13 17 [name 15 16]]]

/-- The tree of `f(g(zz,b),g(AΣb,h(a)))`. -/
def sigmaFile : ParseTree :=
  program 23 [call 2 9 [name 4 6, name 7 8], call 10 22 [name 12 16, call 17 21 [name 19 20]]]

/-- The tree of `f(AΣ$)`, also with a letter in the place of the `$`. -/
def endingCall : ParseTree :=
  program 7 [name 2 6]

end Calls

namespace Criteria

/-- `f($$$,g($Σb,h(a)))` matches `f(g(zz,b),g(AΣb,h(a)))` with letter case and without: whatever the
`$` covers, the `Σ` goes on with a letter. -/
theorem calls_match_ignoring_case :
    let query := Calls.queryNodeOf "f($$$,g($Σb,h(a)))" Calls.sigmaQuery
    let file := Calls.nodeOf "f(g(zz,b),g(AΣb,h(a)))" Calls.sigmaFile
    (validate ⟨Calls.profile, .exact, false⟩ query file {}).1 = .ok true ∧
    (validate ⟨Calls.profile, .exact, true⟩ query file {}).1 = .ok true ∧
    fragmentsMatch (lowercase "$Σb") (lowercase "AΣb") = true := by
  obtain ⟨htrees, htexts⟩ := matches_kept_ignoring_case Calls.grammar
  have hquery := Calls.buildsQuery_queryNodeOf "f($$$,g($Σb,h(a)))" Calls.sigmaQuery
  have hfile := Calls.builds_nodeOf "f(g(zz,b),g(AΣb,h(a)))" Calls.sigmaFile
  have hmatch : (validate ⟨Calls.profile, .exact, false⟩
      (Calls.queryNodeOf "f($$$,g($Σb,h(a)))" Calls.sigmaQuery)
      (Calls.nodeOf "f(g(zz,b),g(AΣb,h(a)))" Calls.sigmaFile) {}).1 = .ok true := by
    decide +kernel
  refine ⟨hmatch, ?_, ?_⟩
  · exact htrees _ _ {} {} (Or.inr hquery) hfile (Or.inl (by decide +kernel)) (by decide +kernel)
      hmatch
  · exact (htexts "$Σb").mpr (by decide +kernel) "AΣb" (by decide +kernel)

/-- A match can be lost in two ways when case is ignored.  The `Σ` of `AΣ$` ends a word, and that of
`AΣB` does not, so they become `aς$` and `aσb`.  And the call `g(xy,h(a))`, which with letter case is
not tried any further on `g(XY,call)`, comes to the word `call` without it. -/
theorem match_lost_ignoring_case :
    (fragmentsMatch "AΣ$" "AΣB" = true ∧
      fragmentsMatch (lowercase "AΣ$") (lowercase "AΣB") = false) ∧
    (let query := Calls.queryNodeOf "f(AΣ$)" Calls.endingCall
      let file := Calls.nodeOf "f(AΣB)" Calls.endingCall
      Calls.grammar.BuildsQuery query ∧ Calls.grammar.Builds file ∧
      file.Everywhere Calls.grammar.layout.BareToken ∧
      (validate ⟨Calls.profile, .exact, false⟩ query file {}).1 = .ok true ∧
      (validate ⟨Calls.profile, .exact, true⟩ query file {}).1 = .ok false) ∧
    (let query := Calls.queryNodeOf "f($$$,g(xy,h(a)))" Calls.nestedQuery
      let file := Calls.nodeOf "f(g(XY,call),g(xy,h(a)))" Calls.nestedWord
      Calls.grammar.BuildsQuery query ∧ Calls.grammar.Builds file ∧
      query.Everywhere Calls.profile.SettledText ∧
      (validate ⟨Calls.profile, .exact, false⟩ query file {}).1 = .ok true ∧
      (validate ⟨Calls.profile, .exact, true⟩ query file {}).1 =
        .error (.fieldsMissing "call" "call" [] ["argument", "function"])) := by
  refine ⟨⟨by decide +kernel, by decide +kernel⟩, ?_, ?_⟩
  · exact ⟨Calls.buildsQuery_queryNodeOf _ _, Calls.builds_nodeOf _ _, by decide +kernel,
      by decide +kernel, by decide +kernel⟩
  · exact ⟨Calls.buildsQuery_queryNodeOf _ _, Calls.builds_nodeOf _ _, by decide +kernel,
      by decide +kernel, by decide +kernel⟩

end Criteria

end StructuralSearch
