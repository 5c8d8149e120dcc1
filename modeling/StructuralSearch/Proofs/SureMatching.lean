import Mathlib.Tactic.Choose
import StructuralSearch.Proofs.BuiltShape
import StructuralSearch.Proofs.Verdict
import StructuralSearch.Search.Run

/-!
# Matching built trees never fails

A match fails only if a file node lacks a field that the query node compares.  Nodes are compared
in their fields only if they are of one kind, and in built trees a field that holds more than a
token is declared for the kind.  So it is enough that every file node has all fields of its kind
(`Layout.Covers`).

The named nodes of a built tree have them.  A token in a sequence has no fields, though, and the
match fails there if the kind of the token is also the kind of a named node with fields.  Without
such tokens nothing fails, from a pair of nodes up to a whole search.
-/

namespace StructuralSearch

namespace Matching

/-- A computation never fails, whatever the counters are. -/
def NeverFails {α : Type} (x : Matching α) : Prop :=
  ∀ tally, ∃ a, (x tally).1 = .ok a

/-- A computation whose outcome is no failure never fails. -/
theorem Yields.neverFails {α : Type} {x : Matching α} {y : Except SearchError α} (h : Yields x y)
    (hy : ∃ a, y = .ok a) : NeverFails x := by
  obtain ⟨a, rfl⟩ := hy
  exact fun tally => ⟨a, h.fst_eq tally⟩

end Matching

/-- The nodes that a query target wants to find. -/
def QueryTarget.nodes (profile : Profile) : QueryTarget → List Node
  | .node target => [target]
  | .statements block => profile.body block

namespace Criteria

open Matching

variable {criteria : Criteria}

/-- The elements of a query sequence decide on the nodes for which they have verdicts. -/
theorem decides_elements {queries files : List Node}
    (h : ∀ query ∈ queries, ∀ file ∈ files, ∃ found, criteria.verdict query file = .ok found) :
    Sequence.Decides (criteria.elements queries)
      (files.filter criteria.profile.isComparable) := by
  intro wanted hwanted _ file hfile
  obtain ⟨query, hquery, rfl⟩ := List.mem_map.mp hwanted
  dsimp only [element]
  split
  · exact ⟨true, rfl⟩
  · exact h query (List.mem_of_mem_filter hquery) file (List.mem_of_mem_filter hfile)

/-- The search in a sequence does not fail if the decisions do not. -/
theorem searchSequence_ok (criteria : Criteria)
    {query : List (Wanted (Except SearchError) Node)} {comparable : List Node}
    (h : Sequence.Decides query comparable) :
    ∃ found, criteria.searchSequence query comparable = .ok found := by
  unfold searchSequence
  split
  · exact ⟨_, Sequence.glob_eq_ok h⟩
  · rw [Sequence.claim_eq_ok _ h]
    exact ⟨_, rfl⟩

/-- The search in a body does not fail if the decisions do not. -/
theorem searchStatements_ok (criteria : Criteria) {query : List (Wanted (Except SearchError) Node)}
    {comparable : List Node} (h : Sequence.Decides query comparable) :
    ∃ spans, criteria.searchStatements query comparable = .ok spans := by
  unfold searchStatements
  split
  · have htest : ∀ part, part ⊆ comparable → ∃ found, Sequence.glob query part = .ok found :=
      fun part hpart => ⟨_, Sequence.glob_eq_ok
        fun wanted hwanted hasked x hx => h wanted hwanted hasked x (hpart hx)⟩
    obtain ⟨windows, hwindows⟩ := Sequence.shortestWindows_ok comparable htest
    rw [hwindows]
    exact ⟨_, rfl⟩
  · rw [Sequence.claim_eq_ok _ h]
    exact ⟨_, rfl⟩

/-- Matching values does not fail if matching the nodes in them does not. -/
theorem valueVerdict_ok {query file : FieldValue Node}
    (h : ∀ child ∈ query.nodes, ∀ actual ∈ file.nodes,
      ∃ found, criteria.verdict child actual = .ok found) :
    ∃ found, criteria.valueVerdict query file = .ok found := by
  unfold valueVerdict validateValue
  split
  · exact h _ (by simp [FieldValue.nodes]) _ (by simp [FieldValue.nodes])
  · exact ⟨true, rfl⟩
  · rename_i queries files
    obtain ⟨found, hfound⟩ := searchSequence_ok criteria (decides_elements h)
    exact ⟨found, (criteria.sequenceVerdict_eq queries files).trans hfound⟩
  · exact ⟨_, rfl⟩
  · exact ⟨false, rfl⟩

/-- **Fields in their places, no failure.**  Matching does not fail if the query nodes have only
fields that a layout allows and the file nodes have all fields that it declares. -/
theorem verdict_ok_of_allows {layout : Layout} {query file : Node}
    (hquery : query.Everywhere layout.Allows) (hfile : file.Everywhere layout.Covers) :
    ∃ found, criteria.verdict query file = .ok found := by
  induction query using Node.induction_on_children generalizing file with
  | step query ih =>
      apply verdict_ok
      · intro _ hkind name value hmem hcompared
        have hadmits := hquery.self name value hmem
        refine hfile.self name ?_
        rw [← hkind]
        refine hadmits.mem_fieldNames fun text htoken => ?_
        simp [htoken, isCompared] at hcompared
      · intro name value hmem _ actual hactual
        refine valueVerdict_ok fun child hchild other hother => ?_
        have hbelow := Node.mem_children_iff.mpr ⟨name, value, hmem, hchild⟩
        exact ih child hbelow (hquery.child hbelow)
          (hfile.child (Node.mem_children_of_field? hactual hother))

/-- Matching does not fail if the query nodes have the shape of a layout and the file nodes have all
fields that the layout declares. -/
theorem verdict_ok_of_fits {layout : Layout} {query file : Node}
    (hquery : query.Everywhere layout.Fits) (hfile : file.Everywhere layout.Covers) :
    ∃ found, criteria.verdict query file = .ok found :=
  verdict_ok_of_allows (hquery.mono fun _ => Layout.Fits.allows) hfile

/-- There is a verdict on each pair of a query node and a file node, if the tokens of the file are of
kinds without fields. -/
theorem verdict_ok_of_builds {grammar : Grammar} {query file : Node}
    (hquery : grammar.BuildsQuery query) (hfile : grammar.Builds file)
    (hbare : file.Everywhere grammar.layout.BareToken) :
    ∃ found, criteria.verdict query file = .ok found :=
  verdict_ok_of_fits hquery.everywhere_fits (hfile.everywhere_covers hbare)

/-- Validation never fails where there is a verdict. -/
theorem neverFails_validate {query file : Node}
    (h : ∃ found, criteria.verdict query file = .ok found) :
    NeverFails (criteria.validate query file) :=
  Yields.neverFails (criteria.steady_validate query file) h

/-- Sequences are matched without failure if their nodes are. -/
theorem neverFails_validateSequence {queries files : List Node}
    (h : ∀ query ∈ queries, ∀ file ∈ files, ∃ found, criteria.verdict query file = .ok found) :
    NeverFails (criteria.validateSequence queries files) :=
  (criteria.yields_validateSequence queries files).neverFails
    (searchSequence_ok criteria (decides_elements h))

/-- Statements are matched without failure if their nodes are. -/
theorem neverFails_matchStatements {queries body : List Node}
    (h : ∀ query ∈ queries, ∀ file ∈ body, ∃ found, criteria.verdict query file = .ok found) :
    NeverFails (criteria.matchStatements queries body) :=
  (criteria.yields_matchStatements queries body).neverFails
    (searchStatements_ok criteria (decides_elements h))

/-- Keeping the values of the elements that pass a test. -/
theorem filterMap_ite_some {α β : Type} (p : α → Bool) (f : α → β) (xs : List α) :
    (xs.filterMap fun x => if p x then some (f x) else none) = (xs.filter p).map f := by
  induction xs with
  | nil => rfl
  | cons x xs ih => cases hx : p x <;> simp [hx, ih]

/-- The candidates are tried one after the other. -/
theorem yields_spansOfNode (criteria : Criteria) (target : Node) (nodes : List Node) :
    Yields (criteria.spansOfNode target nodes)
      ((nodes.filter fun node => criteria.profile.areAlternatives target.kind node.kind).filterMapM
        fun node => do return if ← criteria.verdict target node then some node.span else none) := by
  unfold spansOfNode
  refine yields_filterMapM fun node _ => ?_
  exact runsAlongside_yields.bind (criteria.steady_validate target node)
    fun found => runsAlongside_yields.pure _

/-- The spans of the candidates that match, if matching does not fail. -/
theorem yields_spansOfNode_of_ok {target : Node} {nodes : List Node}
    (h : ∀ node ∈ nodes, criteria.profile.areAlternatives target.kind node.kind = true →
      ∃ found, criteria.verdict target node = .ok found) :
    Yields (criteria.spansOfNode target nodes)
      (.ok (((nodes.filter fun node => criteria.profile.areAlternatives target.kind node.kind).filter
        (criteria.isMatch target)).map (·.span))) := by
  have htried := criteria.yields_spansOfNode target nodes
  rw [filterMapM_eq_ok fun node => if criteria.isMatch target node then some node.span else none,
    filterMap_ite_some] at htried
  · exact htried
  · intro node hmem
    obtain ⟨hnode, hkind⟩ := List.mem_filter.mp hmem
    rw [criteria.verdict_eq_isMatch (h node hnode hkind)]
    rfl

/-- The statements in the body of a visited node are visited. -/
theorem mem_walk_of_mem_body {profile : Profile} {root node statement : Node}
    (hnode : node ∈ root.walk) (hstatement : statement ∈ profile.body node) :
    statement ∈ root.walk :=
  Node.mem_walk_trans (Node.mem_walk_of_mem_sequence hstatement) hnode

/-- The spans of the matches of query statements in a body; there are none if the matching fails. -/
def stretches (criteria : Criteria) (queries body : List Node) : List Span :=
  (criteria.searchStatements (criteria.elements queries)
    (body.filter criteria.profile.isComparable)).toOption.getD []

/-- The spans of all matches of a query target in a file, failures put aside. -/
def spans (criteria : Criteria) (target : QueryTarget) (root : Node) : List Span :=
  let holders := root.walk.filter criteria.profile.holdsStatements
  match target with
  | .statements block => holders.flatMap fun node =>
      criteria.stretches (criteria.profile.body block) (criteria.profile.body node)
  | .node target =>
      if (criteria.profile.nodeWildcard? target).isSome then
        (holders.flatMap fun node => criteria.standalone (criteria.profile.body node)).map (·.span)
      else ((root.walk.filter fun node =>
        criteria.profile.areAlternatives target.kind node.kind).filter
          (criteria.isMatch target)).map (·.span)

/-- A node that is no wildcard and matches nothing in a file has no spans there. -/
theorem spans_node_eq_nil (criteria : Criteria) {target root : Node}
    (hplain : ¬ (criteria.profile.nodeWildcard? target).isSome = true)
    (h : ∀ node ∈ root.walk, criteria.profile.areAlternatives target.kind node.kind = true →
      criteria.verdict target node ≠ .ok true) : criteria.spans (.node target) root = [] := by
  unfold spans
  dsimp only
  rw [if_neg hplain, List.map_eq_nil_iff, List.filter_eq_nil_iff]
  intro node hnode hmatch
  obtain ⟨hwalk, hkind⟩ := List.mem_filter.mp hnode
  exact h node hwalk hkind (criteria.isMatch_iff.mp hmatch)

/-- Statements that match all nodes of a body without failure yield their stretches. -/
theorem yields_stretches {queries body : List Node}
    (h : ∀ query ∈ queries, ∀ file ∈ body, ∃ found, criteria.verdict query file = .ok found) :
    Yields (criteria.matchStatements queries body) (.ok (criteria.stretches queries body)) := by
  obtain ⟨spans, hspans⟩ := searchStatements_ok criteria (decides_elements h)
  have hstretches : criteria.stretches queries body = spans := by
    simp [stretches, hspans, Except.toOption]
  rw [hstretches, ← hspans]
  exact criteria.yields_matchStatements queries body

/-- **A query on a whole file.**  If the nodes of a query match all nodes of a file without failure,
the spans of all matches are found. -/
theorem yields_findSpans {target : QueryTarget} {root : Node}
    (h : ∀ query ∈ target.nodes criteria.profile, ∀ file ∈ root.walk,
      ∃ found, criteria.verdict query file = .ok found) :
    Yields (criteria.findSpans target root) (.ok (criteria.spans target root)) := by
  unfold findSpans spans
  cases target with
  | node target =>
      dsimp only
      split
      · exact runsAlongside_yields.pure _
      · exact yields_spansOfNode_of_ok fun node hnode _ =>
          h target (by simp [QueryTarget.nodes]) node hnode
  | statements block =>
      dsimp only
      rw [List.flatMap_def]
      refine runsAlongside_yields.bind (yields_mapM fun node hnode => ?_)
        fun all => runsAlongside_yields.pure all.flatten
      exact yields_stretches fun query hquery file hfile => h query hquery file
        (mem_walk_of_mem_body (List.mem_of_mem_filter hnode) hfile)

/-- Such a query does not fail. -/
theorem neverFails_findSpans {target : QueryTarget} {root : Node}
    (h : ∀ query ∈ target.nodes criteria.profile, ∀ file ∈ root.walk,
      ∃ found, criteria.verdict query file = .ok found) :
    NeverFails (criteria.findSpans target root) :=
  (yields_findSpans h).neverFails ⟨_, rfl⟩

end Criteria

end StructuralSearch
