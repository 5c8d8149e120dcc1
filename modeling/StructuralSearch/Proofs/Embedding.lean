import Mathlib.Order.Fin.Basic
import StructuralSearch.Proofs.SequenceVerdict
import StructuralSearch.Proofs.SureSearch

/-!
# What the include modes promise

A match in an include mode is an embedding: the query is found in the file with parts of the file
left out.  At each pair of nodes the rules for one level hold, each child of the query is embedded
in the child in the same field, and the elements of a sequence are embedded in different elements
of the file sequence, in order if the mode keeps order.

Nothing is asked of the nodes here: they may have been made by hand, and matching them may fail
elsewhere.  `embeds_of_verdict` goes down the query tree and takes the maps between the sequences
from the claims.
-/

namespace StructuralSearch

namespace Criteria

mutual

/-- A query node is found in a file node, with all that is below it. -/
inductive Embeds (criteria : Criteria) : Node → Node → Prop
  /-- wildcards, names and literals are settled by themselves -/
  | settled {query file : Node} (halone : criteria.DecidedAlone query)
      (hlevel : criteria.compareLevel file query = .settled) : Embeds criteria query file
  /-- other nodes agree outside of their children, and what the query holds is found -/
  | fields {query file : Node} (halone : ¬ criteria.DecidedAlone query)
      (hagree : AgreeOutside query file)
      (hvalues : ∀ name value, (name, value) ∈ query.fields → (∀ text, value ≠ .token text) →
        value.isEmpty = false → EmbedsValue criteria value (file.field? name)) :
      Embeds criteria query file

/-- The value of a query field is found in the value of a file field, if that is there. -/
inductive EmbedsValue (criteria : Criteria) :
    FieldValue Node → Option (FieldValue Node) → Prop
  | child {query file : Node} (hembeds : Embeds criteria query file) :
      EmbedsValue criteria (.child (some query)) (some (.child (some file)))
  /-- each element of the query has a place of its own in the file -/
  | sequence {query file : List Node}
      (place : Fin (criteria.claimants query).length →
        Fin (file.filter criteria.profile.isComparable).length)
      (hinjective : Function.Injective place)
      (hordered : criteria.mode = .includeOrdered → StrictMono place)
      (hfound : ∀ i,
        criteria.profile.elementWildcard? ((criteria.claimants query).get i) ≠ some .single →
        Embeds criteria ((criteria.claimants query).get i)
          ((file.filter criteria.profile.isComparable).get (place i))) :
      EmbedsValue criteria (.sequence query) (some (.sequence file))

end

variable {criteria : Criteria}

/-- A value of the query that is not empty is compared. -/
theorem isCompared_of_not_isEmpty {value : FieldValue Node} (htoken : ∀ text, value ≠ .token text)
    (hvalue : value.isEmpty = false) : criteria.isCompared value = true := by
  cases value <;> simp_all [isCompared]

/-- The claims for a sequence are an embedding of the sequence. -/
theorem embedsValue_of_searchSequence (hmode : criteria.mode ≠ .exact) {queries files : List Node}
    (hmatch : criteria.searchSequence (criteria.elements queries)
      (files.filter criteria.profile.isComparable) = .ok true)
    (h : ∀ query ∈ queries, ∀ file, criteria.verdict query file = .ok true →
      criteria.Embeds query file) :
    criteria.EmbedsValue (.sequence queries) (some (.sequence files)) := by
  obtain ⟨places, hplaces⟩ := exists_claim_of_searchSequence hmode hmatch
  obtain ⟨htakes, hdistinct, hordered⟩ := takesAt_of_claim hplaces
  obtain ⟨hlength, htakes⟩ := List.forall₂_iff_get.mp htakes
  -- The place of an element is the one that was claimed for it.
  have hplace : ∀ i : Fin (criteria.claimants queries).length,
      ∃ j : Fin (files.filter criteria.profile.isComparable).length,
        places[i.val]? = some j.val ∧
        criteria.acceptsNode ((criteria.claimants queries).get i)
          ((files.filter criteria.profile.isComparable).get j) = true := by
    intro i
    have hi : i.val < places.length := hlength ▸ i.isLt
    obtain ⟨x, hx, haccepts⟩ := htakes i.val i.isLt hi
    obtain ⟨hj, rfl⟩ := List.getElem?_eq_some_iff.mp hx
    exact ⟨⟨_, hj⟩, by simp [hi], haccepts⟩
  choose place hclaimed haccepts using hplace
  refine .sequence place ?_ ?_ ?_
  · intro i j heq
    have hi : i.val < places.length := hlength ▸ i.isLt
    have hsame : places[i.val]? = places[j.val]? := by rw [hclaimed i, hclaimed j, heq]
    exact Fin.ext ((List.getElem?_inj hi hdistinct).mp hsame)
  · intro hmode i j hij
    obtain ⟨hi, hiplace⟩ := List.getElem?_eq_some_iff.mp (hclaimed i)
    obtain ⟨hj, hjplace⟩ := List.getElem?_eq_some_iff.mp (hclaimed j)
    have hless := List.pairwise_iff_getElem.mp (hordered (by simp [hmode])) i.val j.val hi hj hij
    rwa [hiplace, hjplace] at hless
  · intro i hsingle
    have hmem : (criteria.claimants queries).get i ∈ queries :=
      mem_of_mem_claimants (List.get_mem _ i)
    exact h _ hmem _ ((criteria.acceptsNode_iff.mp (haccepts i)).resolve_left hsingle)

/-- **Include modes embed.**  What matches in an include mode is embedded. -/
theorem embeds_of_verdict (hmode : criteria.mode ≠ .exact) {query file : Node}
    (h : criteria.verdict query file = .ok true) : criteria.Embeds query file := by
  induction query using Node.induction_on_children generalizing file with
  | step query ih =>
      rcases criteria.verdict_eq_true_iff.mp h with hlevel | ⟨halone, hagree, hfields⟩
      · exact .settled (criteria.decidedAlone_of_settled hlevel) hlevel
      · refine .fields halone hagree fun name value hmem htoken hvalue => ?_
        obtain ⟨actual, hactual, hmatch⟩ :=
          hfields name value hmem (isCompared_of_not_isEmpty htoken hvalue)
        have hbelow : ∀ child ∈ value.nodes, ∀ other, criteria.verdict child other = .ok true →
            criteria.Embeds child other := fun child hchild _ hother =>
          ih child (Node.mem_children_iff.mpr ⟨name, value, hmem, hchild⟩) hother
        rw [hactual]
        unfold valueVerdict validateValue at hmatch
        split at hmatch
        · exact .child (hbelow _ (by simp [FieldValue.nodes]) _ hmatch)
        · cases hvalue
        · rename_i queries files
          refine embedsValue_of_searchSequence hmode ?_ hbelow
          rw [← sequenceVerdict_eq]
          exact hmatch
        · exact absurd rfl (htoken _)
        · cases hmatch

/-- **No false positives.**  If validation says in an include mode that two nodes match, the query
node is embedded in the file node, whatever nodes these are and whatever the counters were. -/
theorem validate_embeds (hmode : criteria.mode ≠ .exact) {query file : Node} (tally : Tally)
    (h : (criteria.validate query file tally).1 = .ok true) : criteria.Embeds query file :=
  embeds_of_verdict hmode (criteria.validate_fst_eq query file tally ▸ h)

/-- Whether a call with two arguments matches `f(b,c,g(a))` is up to the arguments, in every mode. -/
theorem verdict_of_two_arguments (mode : Mode) {text : String}
    (htext : text = "f(c,g(a))" ∨ text = "f(g(a),c)") :
    Criteria.verdict ⟨Calls.profile, mode, false⟩ (Calls.queryNode text)
        (Calls.node "f(b,c,g(a))") =
      Criteria.sequenceVerdict ⟨Calls.profile, mode, false⟩
        ((Calls.queryCall text).sequence "argument")
        ((Calls.fileCall "f(b,c,g(a))").sequence "argument") := by
  let criteria : Criteria := ⟨Calls.profile, mode, false⟩
  let query := Calls.queryCall text
  let file := Calls.fileCall "f(b,c,g(a))"
  have hplain : Calls.profile.elementWildcard? query = none := by
    rcases htext with rfl | rfl <;> decide +kernel
  calc criteria.verdict (Calls.queryNode text) (Calls.node "f(b,c,g(a))")
    _ = criteria.sequenceVerdict [query] [file] := by
      cases mode <;> rcases htext with rfl | rfl <;>
        exact verdict_eq_sequenceVerdict _ "children" ["children"] rfl rfl rfl rfl rfl
    _ = (criteria.element query).accepts file := by
      refine sequenceVerdict_singleton ?_ (by rw [hplain]; exact nofun) rfl
      rcases htext with rfl | rfl <;> rfl
    _ = criteria.verdict query file := if_neg (by rw [hplain]; exact nofun)
    _ = criteria.sequenceVerdict (query.sequence "argument") (file.sequence "argument") := by
      cases mode <;> rcases htext with rfl | rfl <;>
        exact verdict_eq_sequenceVerdict _ "argument" ["argument", "function"] rfl rfl rfl rfl
          (by decide +kernel)

/-- `f(c,g(a))` is found in `f(b,c,g(a))` with order, and `f(g(a),c)` without. -/
theorem calls_embed :
    Criteria.Embeds ⟨Calls.profile, .includeOrdered, false⟩
      (Calls.queryNode "f(c,g(a))") (Calls.node "f(b,c,g(a))") ∧
    Criteria.Embeds ⟨Calls.profile, .includeAny, false⟩
      (Calls.queryNode "f(g(a),c)") (Calls.node "f(b,c,g(a))") := by
  constructor
  · refine validate_embeds (by decide) {} ?_
    rw [validate_fst_eq, verdict_of_two_arguments _ (Or.inl rfl), sequenceVerdict_eq]
    simp only [searchSequence, Sequence.claim_eq_claimByInsertion]
    decide +kernel
  · refine validate_embeds (by decide) {} ?_
    rw [validate_fst_eq, verdict_of_two_arguments _ (Or.inr rfl), sequenceVerdict_eq]
    simp only [searchSequence, Sequence.claim_eq_claimByInsertion]
    decide +kernel

end Criteria

end StructuralSearch
