import Mathlib.Algebra.GroupWithZero.Nat
import StructuralSearch.Proofs.Verdict

/-!
# Operations that share a tally

One tally may serve any number of operations, also behind one that failed.  The operations do not
notice: all an operation does to the tally is to add its comparisons, and neither their number nor
its outcome depends on what the tally said before.

The local fact is `Steady.apply_eq`: a steady computation is told by its outcome and by its cost on
a fresh tally.  `cost_validate` counts the comparisons of a match level by level, so there is always
at least one.  `operations_only_count` goes from one operation to a session of them.
-/

namespace StructuralSearch

namespace Matching

variable {α β : Type}

/-- The number of comparisons that a computation adds to a fresh tally. -/
def cost (x : Matching α) : Nat :=
  (x.run {}).2.comparisons

/-- A steady computation adds its comparisons to the tally and does nothing else to it. -/
theorem Steady.apply_eq {x : Matching α} (h : Steady x) (tally : Tally) :
    x tally = (outcome x, tally.advance (cost x)) := by
  obtain ⟨added, hadded⟩ := h
  have hcost : cost x = added := by
    change (x {}).2.comparisons = added
    rw [hadded {}]
    exact Nat.zero_add added
  rw [hadded tally, hcost]

/-- Behind a computation with a result, the comparisons of the next one are added. -/
theorem cost_bind {x : Matching α} {f : α → Matching β} {a : α} (hx : Yields x (.ok a))
    (hf : Steady (f a)) : cost (x >>= f) = cost x + cost (f a) := by
  have hfirst := hx.steady.apply_eq {}
  rw [hx.outcome_eq] at hfirst
  change ((x >>= f) {}).2.comparisons = _
  simp only [bind, ExceptT.bind, ExceptT.mk, StateT.bind, hfirst]
  change (f a _).2.comparisons = _
  rw [hf.apply_eq]
  simp [Tally.advance]

/-- Going deeper costs nothing. -/
theorem cost_deeper {x : Matching α} (h : Steady x) : cost (deeper x) = cost x := by
  change (deeper x {}).2.comparisons = _
  simp only [deeper, h.apply_eq]
  simp [Tally.advance]

end Matching

/-- An operation of matching. -/
inductive MatchOperation
  | compare (query file : Node)
  | validate (query file : Node)
  | sequence (queries files : List Node)
  | statements (queries body : List Node)

/-- What an operation answers if it does not fail. -/
inductive MatchAnswer
  | level (comparison : Comparison)
  | decision (matched : Bool)
  | spans (found : List Span)

namespace Criteria

open Matching

variable (criteria : Criteria)

/-- The computation of an operation. -/
def perform : MatchOperation → Matching MatchAnswer
  | .compare query file => return .level (← criteria.compareNodes file query)
  | .validate query file => return .decision (← criteria.validate query file)
  | .sequence queries files => return .decision (← criteria.validateSequence queries files)
  | .statements queries body => return .spans (← criteria.matchStatements queries body)

/-- The answers to operations that are performed one after the other on one tally, whether they fail
or not. -/
def session (operations : List MatchOperation) :
    StateM Tally (List (Except SearchError MatchAnswer)) :=
  operations.mapM fun operation => (criteria.perform operation).run

/-- All operations are steady. -/
theorem steady_perform (operation : MatchOperation) : Steady (criteria.perform operation) := by
  have hanswer : ∀ {α : Type} {x : Matching α} (f : α → MatchAnswer), Steady x →
      Steady (x >>= fun a => pure (f a)) := by
    intro α x f hx
    exact (runsAlongside_yields.bind hx fun a => runsAlongside_yields.pure (f a)).steady
  cases operation with
  | compare query file => exact hanswer _ (criteria.yields_compareNodes file query).steady
  | validate query file => exact hanswer _ (criteria.steady_validate query file)
  | sequence queries files => exact hanswer _ (criteria.yields_validateSequence queries files).steady
  | statements queries body => exact hanswer _ (criteria.yields_matchStatements queries body).steady

/-- A match costs one comparison, and if the nodes are to be compared in their fields, the
comparisons of the fields. -/
theorem cost_validate (query file : Node) :
    cost (criteria.validate query file) =
      1 + match criteria.compareLevel file query with
        | .pending fileKeys queryKeys =>
          if fileKeys.length = queryKeys.length then
            cost (criteria.validateFields query.fields file) else 0
        | _ => 0 := by
  have hfields : Steady (criteria.validateFields query.fields file) :=
    criteria.steady_validateFields (fun _ _ _ child _ => criteria.steady_validate child) file
  rw [validate_eq, cost_bind (criteria.yields_compareNodes file query)
    (criteria.yields_behind_level hfields _).steady]
  change 1 + _ = 1 + _
  cases criteria.compareLevel file query with
  | mismatch => rfl
  | settled => rfl
  | pending fileKeys queryKeys =>
      dsimp only
      split
      · rw [cost_deeper hfields]
      · rfl

/-- The first operation of a session leaves its tally to the others. -/
theorem session_cons (operation : MatchOperation) (operations : List MatchOperation)
    (tally : Tally) :
    criteria.session (operation :: operations) tally =
      let first := criteria.perform operation tally
      let later := criteria.session operations first.2
      (first.1 :: later.1, later.2) := by
  unfold session
  rw [List.mapM_cons]
  rfl

/-- A session gives the answers of fresh tallies and adds all comparisons. -/
theorem session_eq (operations : List MatchOperation) (tally : Tally) :
    criteria.session operations tally =
      (operations.map fun operation => outcome (criteria.perform operation),
        tally.advance (operations.map fun operation => cost (criteria.perform operation)).sum) := by
  induction operations generalizing tally with
  | nil => rfl
  | cons operation operations ih =>
      have hfirst := (criteria.steady_perform operation).apply_eq tally
      rw [session_cons, hfirst]
      dsimp only
      rw [ih]
      simp only [Tally.advance, List.map_cons, List.sum_cons, Nat.add_assoc]

/-- **Operations only count.**  Matching two nodes, two sequences or the statements of a body does
one thing to a tally: it adds its comparisons, for two nodes at least one.  Neither their number nor
the outcome depends on the tally, whether the outcome is a failure or not.  So the operations of a
session give the answers that they give on fresh tallies, and the comparisons add up. -/
theorem operations_only_count :
    (∀ query file tally,
      criteria.validate query file tally =
        (outcome (criteria.validate query file),
          { tally with
            comparisons := tally.comparisons + cost (criteria.validate query file) }) ∧
      1 ≤ cost (criteria.validate query file)) ∧
    (∀ queries files tally, criteria.validateSequence queries files tally =
      (outcome (criteria.validateSequence queries files),
        { tally with
          comparisons := tally.comparisons + cost (criteria.validateSequence queries files) })) ∧
    (∀ queries body tally, criteria.matchStatements queries body tally =
      (outcome (criteria.matchStatements queries body),
        { tally with
          comparisons := tally.comparisons + cost (criteria.matchStatements queries body) })) ∧
    ∀ operations tally, criteria.session operations tally =
      (operations.map fun operation => outcome (criteria.perform operation),
        { tally with
          comparisons := tally.comparisons +
            (operations.map fun operation => cost (criteria.perform operation)).sum }) := by
  refine ⟨?_, ?_, ?_, ?_⟩
  · intro query file tally
    refine ⟨(criteria.steady_validate query file).apply_eq tally, ?_⟩
    rw [cost_validate]
    exact Nat.le_add_right 1 _
  · intro queries files tally
    exact (criteria.yields_validateSequence queries files).steady.apply_eq tally
  · intro queries body tally
    exact (criteria.yields_matchStatements queries body).steady.apply_eq tally
  · intro operations tally
    exact criteria.session_eq operations tally

/-- A call with the given fields. -/
def callWith (fields : List (String × FieldValue Node)) : Node where
  kind := "call_expression"
  span := ⟨⟨1, 1, 0⟩, ⟨1, 1, 0⟩⟩
  fields := fields

/-- The inner call of the file lacks the field that the inner call of the query has.  The match fails
there, two comparisons later and back at the depth where it began. -/
example :
    let query := callWith [("function", .child (some (callWith [("function", .child none)])))]
    let file := callWith [("function", .child (some (callWith [])))]
    let run := validate ⟨.typescript, .exact, false⟩ query file { comparisons := 5, depth := 3 }
    run.1 = .error (.fieldsMissing "call_expression" "call_expression" [] ["function"]) ∧
      run.2 = { comparisons := 7, depth := 3 } := by
  intro query file run
  decide +kernel

end Criteria

end StructuralSearch
