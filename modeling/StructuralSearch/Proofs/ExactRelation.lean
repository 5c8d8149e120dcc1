import StructuralSearch.Proofs.SequenceVerdict
import StructuralSearch.Proofs.SureSearch

/-!
# What exact mode decides

Exact mode decides a relation between trees that can be said without counters, failures or any order
of tries.  A query node that is decided alone is related to the file nodes that its own rule
settles.  Any other one is related to the nodes that agree with it outside of the children and that
hold related values in all its fields; sequences are related when the file list can be cut into
pieces for the elements of the query.

`verdict_iff_related_of_allows` goes down the query tree with this relation, and
`exact_decides_related` says what comes out for built trees.
-/

namespace StructuralSearch

namespace Criteria

mutual

/-- A query node describes a file node and all that is below it. -/
inductive Related (criteria : Criteria) : Node → Node → Prop
  /-- wildcards, names and literals are settled by themselves -/
  | settled {query file : Node} (halone : criteria.DecidedAlone query)
      (hlevel : criteria.compareLevel file query = .settled) : Related criteria query file
  /-- other nodes agree outside of their children and have related values in the fields -/
  | fields {query file : Node} (halone : ¬ criteria.DecidedAlone query)
      (hagree : AgreeOutside query file)
      (hvalues : ∀ name value, (name, value) ∈ query.fields → (∀ text, value ≠ .token text) →
        RelatedValue criteria value (file.field? name)) : Related criteria query file

/-- The value of a query field describes the value of a file field, if that is there. -/
inductive RelatedValue (criteria : Criteria) :
    FieldValue Node → Option (FieldValue Node) → Prop
  | absent : RelatedValue criteria (.child none) (some (.child none))
  | child {query file : Node} (hrelated : Related criteria query file) :
      RelatedValue criteria (.child (some query)) (some (.child (some file)))
  | sequence {query file : List Node}
      (haligned : Aligned (fun wanted => criteria.profile.elementWildcard? wanted = some .rest)
        (Takes criteria) (query.filter criteria.profile.isComparable)
        (file.filter criteria.profile.isComparable)) :
      RelatedValue criteria (.sequence query) (some (.sequence file))

/-- An element of a query sequence that is no rest wildcard takes an element of the file. -/
inductive Takes (criteria : Criteria) : Node → Node → Prop
  | any {query file : Node} (hsingle : criteria.profile.elementWildcard? query = some .single) :
      Takes criteria query file
  | node {query file : Node} (hnone : criteria.profile.elementWildcard? query = none)
      (hrelated : Related criteria query file) : Takes criteria query file

end

variable {criteria : Criteria}

/-- Which fields are compared in exact mode. -/
theorem isCompared_iff_of_exact (hexact : criteria.mode = .exact) {value : FieldValue Node} :
    criteria.isCompared value = true ↔ ∀ text, value ≠ .token text := by
  cases value <;> simp [isCompared, hexact]

/-- A query element that is no rest wildcard accepts exactly what it takes. -/
theorem accepts_iff_takes {query file : Node}
    (hrest : criteria.profile.elementWildcard? query ≠ some .rest)
    (h : criteria.verdict query file = .ok true ↔ criteria.Related query file) :
    criteria.acceptsNode query file = true ↔ criteria.Takes query file := by
  rw [acceptsNode_iff, h]
  cases hwildcard : criteria.profile.elementWildcard? query with
  | none =>
      constructor
      · rintro (hsingle | hrelated)
        · cases hsingle
        · exact .node hwildcard hrelated
      · intro htakes
        cases htakes with
        | any hsingle => simp [hwildcard] at hsingle
        | node _ hrelated => exact Or.inr hrelated
  | some wildcard =>
      cases wildcard with
      | single => exact ⟨fun _ => .any hwildcard, fun _ => Or.inl rfl⟩
      | rest => exact absurd hwildcard hrest

/-- Sequences match in exact mode exactly if they are aligned. -/
theorem sequenceVerdict_eq_true_iff_related (hexact : criteria.mode = .exact)
    {queries files : List Node}
    (hok : ∀ query ∈ queries, ∀ file ∈ files, ∃ found, criteria.verdict query file = .ok found)
    (h : ∀ query ∈ queries, ∀ file ∈ files,
      (criteria.verdict query file = .ok true ↔ criteria.Related query file)) :
    criteria.sequenceVerdict queries files = .ok true ↔
      Aligned (fun wanted => criteria.profile.elementWildcard? wanted = some .rest)
        criteria.Takes (queries.filter criteria.profile.isComparable)
        (files.filter criteria.profile.isComparable) := by
  have htakes : ∀ query ∈ queries.filter criteria.profile.isComparable,
      criteria.profile.elementWildcard? query ≠ some .rest →
      ∀ file ∈ files.filter criteria.profile.isComparable,
        (criteria.acceptsNode query file = true ↔ criteria.Takes query file) :=
    fun query hquery hnone file hfile => accepts_iff_takes hnone
      (h query (List.mem_of_mem_filter hquery) file (List.mem_of_mem_filter hfile))
  rw [sequenceVerdict_eq, searchSequence_eq_true_iff_aligned hexact (decides_elements hok)]
  constructor
  · exact fun haligned => haligned.mono (fun query _ => Iff.rfl)
      fun query hquery hnone file hfile => (htakes query hquery hnone file hfile).mp
  · exact fun haligned => haligned.mono (fun query _ => Iff.rfl)
      fun query hquery hnone file hfile => (htakes query hquery hnone file hfile).mpr

/-- Values match in exact mode exactly if they are related. -/
theorem valueVerdict_eq_true_iff_related (hexact : criteria.mode = .exact)
    {value actual : FieldValue Node} (htoken : ∀ text, value ≠ .token text)
    (hok : ∀ query ∈ value.nodes, ∀ file ∈ actual.nodes,
      ∃ found, criteria.verdict query file = .ok found)
    (h : ∀ query ∈ value.nodes, ∀ file ∈ actual.nodes,
      (criteria.verdict query file = .ok true ↔ criteria.Related query file)) :
    criteria.valueVerdict value actual = .ok true ↔
      criteria.RelatedValue value (some actual) := by
  constructor
  · intro hmatch
    unfold valueVerdict validateValue at hmatch
    split at hmatch
    · rename_i query file
      exact .child ((h query (by simp [FieldValue.nodes]) file (by simp [FieldValue.nodes])).mp
        hmatch)
    · exact .absent
    · rename_i queries files
      exact .sequence ((sequenceVerdict_eq_true_iff_related hexact hok h).mp hmatch)
    · exact absurd rfl (htoken _)
    · cases hmatch
  · intro hrelated
    cases hrelated with
    | absent => rfl
    | child hnodes =>
        exact (h _ (by simp [FieldValue.nodes]) _ (by simp [FieldValue.nodes])).mpr hnodes
    | sequence haligned =>
        exact (sequenceVerdict_eq_true_iff_related hexact hok h).mpr haligned

/-- **Exact mode decides the relation.**  Where matching does not fail, exact mode says that two
nodes match exactly if they are related. -/
theorem verdict_iff_related_of_allows (hexact : criteria.mode = .exact) {layout : Layout}
    {query file : Node} (hquery : query.Everywhere layout.Allows)
    (hfile : file.Everywhere layout.Covers) :
    criteria.verdict query file = .ok true ↔ criteria.Related query file := by
  induction query using Node.induction_on_children generalizing file with
  | step query ih =>
      have hvalues : ∀ name value, (name, value) ∈ query.fields → (∀ text, value ≠ .token text) →
          ∀ actual, file.field? name = some actual →
            (criteria.valueVerdict value actual = .ok true ↔
              criteria.RelatedValue value (some actual)) := by
        intro name value hmem htoken actual hactual
        have hbelow : ∀ child ∈ value.nodes, child ∈ query.children := fun child hchild =>
          Node.mem_children_iff.mpr ⟨name, value, hmem, hchild⟩
        have hother : ∀ other ∈ actual.nodes, other.Everywhere layout.Covers := fun other hother =>
          hfile.child (Node.mem_children_of_field? hactual hother)
        refine valueVerdict_eq_true_iff_related hexact htoken ?_ ?_
        · intro child hchild other hmem
          exact verdict_ok_of_allows (hquery.child (hbelow child hchild)) (hother other hmem)
        · intro child hchild other hmem
          exact ih child (hbelow child hchild) (hquery.child (hbelow child hchild))
            (hother other hmem)
      rw [verdict_eq_true_iff]
      simp only [isCompared_iff_of_exact hexact]
      constructor
      · rintro (hlevel | ⟨halone, hagree, hfields⟩)
        · exact .settled (criteria.decidedAlone_of_settled hlevel) hlevel
        · refine .fields halone hagree fun name value hmem htoken => ?_
          obtain ⟨actual, hactual, hmatch⟩ := hfields name value hmem htoken
          rw [hactual]
          exact (hvalues name value hmem htoken actual hactual).mp hmatch
      · intro hrelated
        cases hrelated with
        | settled _ hlevel => exact Or.inl hlevel
        | fields halone hagree hfields =>
            refine Or.inr ⟨halone, hagree, fun name value hmem htoken => ?_⟩
            have hvalue := hfields name value hmem htoken
            cases hactual : file.field? name with
            | none =>
                rw [hactual] at hvalue
                cases hvalue
            | some actual =>
                rw [hactual] at hvalue
                exact ⟨actual, rfl, (hvalues name value hmem htoken actual hactual).mpr hvalue⟩

/-- Exact mode decides the relation for query nodes that have the shape of a layout. -/
theorem verdict_eq_true_iff_related (hexact : criteria.mode = .exact) {layout : Layout}
    {query file : Node} (hquery : query.Everywhere layout.Fits)
    (hfile : file.Everywhere layout.Covers) :
    criteria.verdict query file = .ok true ↔ criteria.Related query file :=
  verdict_iff_related_of_allows hexact (hquery.mono fun _ => Layout.Fits.allows) hfile

/-- **What exact mode decides on built trees.**  If the tokens of a file are of kinds without
fields, exact mode answers for each pair of a query node and a file node: it says that they match if
they are related, and that they do not if they are not. -/
theorem exact_decides_related {grammar : Grammar} (caseInsensitive : Bool) {query file : Node}
    (hquery : grammar.BuildsQuery query) (hfile : grammar.Builds file)
    (hbare : file.Everywhere grammar.layout.BareToken) (tally : Tally) :
    let criteria : Criteria := ⟨grammar.profile, .exact, caseInsensitive⟩
    ((criteria.validate query file tally).1 = .ok true ↔ criteria.Related query file) ∧
    ((criteria.validate query file tally).1 = .ok false ↔ ¬ criteria.Related query file) := by
  intro criteria
  have hiff : criteria.verdict query file = .ok true ↔ criteria.Related query file :=
    verdict_eq_true_iff_related rfl hquery.everywhere_fits (hfile.everywhere_covers hbare)
  obtain ⟨found, hfound⟩ : ∃ found, criteria.verdict query file = .ok found :=
    verdict_ok_of_builds hquery hfile hbare
  rw [validate_fst_eq, ← hiff, hfound]
  cases found <;> simp

/-- `f($$$,g(a))` is related to `f(b,c,g(a))`, and it is not to `f(a)`. -/
theorem calls_related :
    let criteria : Criteria := ⟨Calls.profile, .exact, false⟩
    criteria.Related (Calls.queryNode "f($$$,g(a))") (Calls.node "f(b,c,g(a))") ∧
    ¬ criteria.Related (Calls.queryNode "f($$$,g(a))") (Calls.node "f(a)") := by
  have hquery := Calls.buildsQuery_node "f($$$,g(a))"
  refine ⟨(exact_decides_related false hquery (Calls.builds_node _) ?_ {}).1.mp ?_,
    (exact_decides_related false hquery (Calls.builds_node _) ?_ {}).2.mp ?_⟩
  · decide
  · decide +kernel
  · decide
  · decide +kernel

/-- A token of a kind with fields keeps exact mode from an answer: `f($$$,g(a))` is tried on the
word in `f(call,g(a))` first, and this fails. -/
theorem exact_fails_at_token :
    Calls.grammar.BuildsQuery (Calls.queryNode "f($$$,g(a))") ∧
    Calls.grammar.Builds (Calls.node "f(call,g(a))") ∧
    ∀ found, (Criteria.validate ⟨Calls.profile, .exact, false⟩
      (Calls.queryNode "f($$$,g(a))") (Calls.node "f(call,g(a))") {}).1 ≠ .ok found := by
  refine ⟨Calls.buildsQuery_node _, Calls.builds_node _, fun found hfound => ?_⟩
  have herror : (Criteria.validate ⟨Calls.profile, .exact, false⟩
      (Calls.queryNode "f($$$,g(a))") (Calls.node "f(call,g(a))") {}).1 =
      .error (.fieldsMissing "call" "call" [] ["argument", "function"]) := by decide +kernel
  rw [herror] at hfound
  cases hfound

end Criteria

end StructuralSearch
