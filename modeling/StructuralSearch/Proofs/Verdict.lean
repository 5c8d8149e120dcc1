import StructuralSearch.Matching.Validation
import StructuralSearch.Proofs.LevelComparison
import StructuralSearch.Proofs.Nodes
import StructuralSearch.Proofs.SequenceRuns

/-!
# The outcome of matching

Matching counts its comparisons and keeps track of its depth, but the counters steer nothing:
whatever they say at the start, a match has the same outcome, costs the same number of comparisons
and leaves the depth as it was.  `Yields` says so of a computation, and `yields_validate` proves it
of all matching.

So a match may be studied by its outcome alone.  `verdict` is the outcome for a pair of nodes, and
the laws at the end of this file say what it is made of: the comparison of the two nodes, the
outcomes for the values of their fields, and for sequences the searches of `Sequence` over elements
that decide by their verdict.
-/

namespace StructuralSearch

/-- The counters after some more comparisons. -/
def Tally.advance (tally : Tally) (cost : Nat) : Tally :=
  { tally with comparisons := tally.comparisons + cost }

namespace Matching

variable {α β : Type}

/-- Whatever the counters are, the computation has this outcome, adds one and the same number of
comparisons and comes back to the depth where it began. -/
def Yields (x : Matching α) (outcome : Except SearchError α) : Prop :=
  ∃ cost, ∀ tally, x tally = (outcome, tally.advance cost)

/-- The outcome of a computation. -/
def outcome (x : Matching α) : Except SearchError α :=
  (x.run {}).1

/-- The computation has its outcome whatever the counters are. -/
theorem Yields.fst_eq {x : Matching α} {y : Except SearchError α} (h : Yields x y)
    (tally : Tally) : (x tally).1 = y := by
  obtain ⟨cost, hcost⟩ := h
  rw [hcost tally]

/-- There is one outcome only. -/
theorem Yields.outcome_eq {x : Matching α} {y : Except SearchError α} (h : Yields x y) :
    outcome x = y :=
  h.fst_eq {}

/-- A chained computation goes on from the tally of the first one, unless that fails. -/
theorem run_bind (x : Matching α) (f : α → Matching β) (tally : Tally) :
    (x >>= f) tally = match x tally with
      | (.ok a, after) => f a after
      | (.error e, after) => (.error e, after) := by
  simp only [bind, ExceptT.bind, ExceptT.mk, StateT.bind]
  cases x tally with
  | mk first after => cases first <;> rfl

/-- A chained computation has a result if the first one has and then the next one. -/
theorem run_bind_eq_ok_iff {x : Matching α} {f : α → Matching β} {tally after : Tally} {b : β} :
    (x >>= f) tally = (.ok b, after) ↔
      ∃ a between, x tally = (.ok a, between) ∧ f a between = (.ok b, after) := by
  rw [run_bind]
  constructor
  · intro h
    split at h
    · exact ⟨_, _, ‹_›, h⟩
    · cases h
  · intro h
    obtain ⟨a, between, hx, hf⟩ := h
    rw [hx]
    exact hf

/-- Chaining keeps the relation between a computation and its outcome. -/
theorem runsAlongside_yields :
    RunsAlongside (m := Matching) (n := Except SearchError) fun _ x y => Yields x y where
  pure a := ⟨0, fun _ => rfl⟩
  bind {_ _ x y f g} first next := by
    obtain ⟨cost, hcost⟩ := first
    cases y with
    | error e =>
        refine ⟨cost, fun tally => ?_⟩
        rw [run_bind, hcost tally]
        rfl
    | ok a =>
        obtain ⟨more, hmore⟩ := next a
        refine ⟨cost + more, fun tally => ?_⟩
        rw [run_bind, hcost tally]
        refine (hmore _).trans ?_
        simp only [Tally.advance, Nat.add_assoc]
        rfl

/-- A failure is its own outcome. -/
theorem yields_throw (e : SearchError) : Yields (throw e : Matching α) (.error e) :=
  ⟨0, fun _ => rfl⟩

/-- Going deeper and coming back does not change the outcome. -/
theorem Yields.deeper {x : Matching α} {y : Except SearchError α} (h : Yields x y) :
    Yields (deeper x) y := by
  obtain ⟨cost, hcost⟩ := h
  refine ⟨cost, fun tally => ?_⟩
  simp [Matching.deeper, hcost, Tally.advance]

/-- Computations that do not fail, made for each element of a list, give the list of their results.
-/
theorem yields_mapM {xs : List α} {f : α → Matching β} {g : α → β}
    (h : ∀ x ∈ xs, Yields (f x) (.ok (g x))) : Yields (xs.mapM f) (.ok (xs.map g)) := by
  induction xs with
  | nil => exact runsAlongside_yields.pure []
  | cons x xs ih =>
      have hrest := ih fun y hy => h y (List.mem_cons_of_mem _ hy)
      rw [List.mapM_cons]
      exact runsAlongside_yields.bind (h x List.mem_cons_self) fun first =>
        runsAlongside_yields.bind hrest fun later => runsAlongside_yields.pure (first :: later)

/-- Keeping some of the results of computations runs alongside keeping some of their outcomes. -/
theorem yields_filterMapM {xs : List α} {f : α → Matching (Option β)}
    {g : α → Except SearchError (Option β)} (h : ∀ x ∈ xs, Yields (f x) (g x)) :
    Yields (xs.filterMapM f) (xs.filterMapM g) := by
  induction xs with
  | nil => exact runsAlongside_yields.pure []
  | cons x xs ih =>
      have hrest := ih fun y hy => h y (List.mem_cons_of_mem _ hy)
      rw [List.filterMapM_cons, List.filterMapM_cons]
      refine runsAlongside_yields.bind (h x List.mem_cons_self) fun kept => ?_
      cases kept with
      | none => exact hrest
      | some b => exact runsAlongside_yields.bind hrest fun later =>
          runsAlongside_yields.pure (b :: later)

/-- Outcomes in a list that are no failures give the list of the results that are kept. -/
theorem filterMapM_eq_ok {xs : List α} {g : α → Except SearchError (Option β)}
    (kept : α → Option β) (h : ∀ x ∈ xs, g x = .ok (kept x)) :
    xs.filterMapM g = .ok (xs.filterMap kept) := by
  induction xs with
  | nil => rfl
  | cons x xs ih =>
      have hrest := ih fun y hy => h y (List.mem_cons_of_mem _ hy)
      rw [List.filterMapM_cons, List.filterMap_cons, h x List.mem_cons_self, hrest]
      cases kept x <;> rfl

/-- If keeping some of the outcomes in a list does not fail, there is an outcome for each element.
-/
theorem ok_of_filterMapM {xs : List α} {g : α → Except SearchError (Option β)} {ys : List β}
    (h : xs.filterMapM g = .ok ys) : ∀ x ∈ xs, ∃ kept, g x = .ok kept := by
  induction xs generalizing ys with
  | nil => simp
  | cons x xs ih =>
      rw [List.filterMapM_cons] at h
      cases hfirst : g x with
      | error e => simp [hfirst, bind, Except.bind] at h
      | ok kept =>
          cases hothers : xs.filterMapM g with
          | error e => cases kept <;> simp [hfirst, hothers, bind, Except.bind] at h
          | ok others =>
              intro y hy
              rcases List.mem_cons.mp hy with rfl | hy
              · exact ⟨kept, hfirst⟩
              · exact ih hothers y hy

/-- A computation that has one outcome and one cost whatever the counters are. -/
def Steady (x : Matching α) : Prop :=
  Yields x (outcome x)

/-- It is enough to name the outcome. -/
theorem Yields.steady {x : Matching α} {y : Except SearchError α} (h : Yields x y) : Steady x := by
  unfold Steady
  rwa [h.outcome_eq]

end Matching

namespace Criteria

open Matching

variable (criteria : Criteria)

/-- The outcome of matching a query node with a file node. -/
def verdict (query file : Node) : Except SearchError Bool :=
  outcome (criteria.validate query file)

/-- The outcome of matching the value of a query field with the value of a file field. -/
def valueVerdict (query file : FieldValue Node) : Except SearchError Bool :=
  outcome (criteria.validateValue query file)

/-- The outcome of matching a list of query fields with the fields of a file node. -/
def fieldsVerdict (fields : List (String × FieldValue Node)) (file : Node) :
    Except SearchError Bool :=
  outcome (criteria.validateFields fields file)

/-- The outcome of matching a query sequence with a file sequence. -/
def sequenceVerdict (query file : List Node) : Except SearchError Bool :=
  outcome (criteria.validateSequence query file)

/-- A node of a query sequence as a wanted element that decides by the verdict. -/
def element (query : Node) : Wanted (Except SearchError) Node where
  wildcard := criteria.profile.elementWildcard? query
  strength := criteria.strengthOf query
  accepts := fun file =>
    if criteria.profile.elementWildcard? query = some .single then .ok true
    else criteria.verdict query file

/-- The comparable nodes of a query sequence as wanted elements. -/
def elements (queries : List Node) : List (Wanted (Except SearchError) Node) :=
  (queries.filter criteria.profile.isComparable).map criteria.element

/-- Whether the verdict is that the nodes match. -/
def isMatch (query file : Node) : Bool :=
  (Sequence.decided (criteria.verdict query file)).run

/-- Whether a node of a query sequence accepts a node of the file, failures put aside. -/
def acceptsNode (query file : Node) : Bool :=
  decide (criteria.profile.elementWildcard? query = some .single) || criteria.isMatch query file

/-- What is searched for a list of wanted elements in a list of comparable nodes. -/
def searchSequence (query : List (Wanted (Except SearchError) Node)) (comparable : List Node) :
    Except SearchError Bool :=
  if criteria.mode = .exact then Sequence.glob query comparable
  else (·.isSome) <$> Sequence.claim (criteria.mode == .includeOrdered) query comparable

/-- What is searched for a list of wanted elements in a body of comparable statements. -/
def searchStatements (query : List (Wanted (Except SearchError) Node)) (comparable : List Node) :
    Except SearchError (List Span) :=
  if criteria.mode = .exact then
    (·.filterMap coverOf?) <$> Sequence.shortestWindows (Sequence.glob query) comparable
  else
    (fun places => (places.bind (coverOfPlaces? comparable)).toList) <$>
      Sequence.claim (criteria.mode == .includeOrdered) query comparable

/-! ### All matching is steady -/

/-- Comparing two nodes at their level costs one comparison and does not fail. -/
theorem yields_compareNodes (file query : Node) :
    Yields (criteria.compareNodes file query) (.ok (criteria.compareLevel file query)) :=
  ⟨1, fun _ => rfl⟩

/-- A node as a wanted element decides by the outcomes of its validation. -/
theorem onto_outcome_wantedOf (query : Node) :
    (criteria.wantedOf query (criteria.validate query)).onto outcome = criteria.element query := by
  unfold wantedOf Wanted.onto element
  congr
  funext file
  dsimp only
  split <;> rfl

/-- The wanted elements of a query sequence decide by the verdict. -/
theorem map_onto_outcome_wantedAll (queries : List Node) :
    (criteria.wantedAll queries).map (Wanted.onto outcome) = criteria.elements queries := by
  rw [wantedAll_eq_map, List.map_map]
  exact List.map_congr_left fun query _ => criteria.onto_outcome_wantedOf query

/-- Nodes whose validation is steady decide steadily. -/
theorem yields_accepts_wantedAll {queries : List Node}
    (h : ∀ query ∈ queries, ∀ file, Steady (criteria.validate query file)) :
    ∀ wanted ∈ criteria.wantedAll queries, ∀ file,
      Yields (wanted.accepts file) (outcome (wanted.accepts file)) := by
  intro wanted hwanted file
  rw [wantedAll_eq_map] at hwanted
  obtain ⟨query, hquery, rfl⟩ := List.mem_map.mp hwanted
  simp only [wantedOf]
  split
  · exact runsAlongside_yields.pure true
  · exact h query (List.mem_of_mem_filter hquery) file

/-- If its nodes are matched steadily, matching a sequence is a search over elements that decide by the
verdict. -/
theorem yields_validateSequence_of_steady {queries : List Node}
    (h : ∀ query ∈ queries, ∀ file, Steady (criteria.validate query file)) (files : List Node) :
    Yields (criteria.validateSequence queries files)
      (criteria.searchSequence (criteria.elements queries)
        (files.filter criteria.profile.isComparable)) := by
  have haccepts := criteria.yields_accepts_wantedAll h
  rw [← map_onto_outcome_wantedAll]
  unfold validateSequence matchSequence searchSequence
  split
  · exact Sequence.glob_alongside runsAlongside_yields haccepts _
  · exact runsAlongside_yields.bind
      (Sequence.claim_alongside runsAlongside_yields _ haccepts _)
      fun places => runsAlongside_yields.pure places.isSome

/-- Validation compares the nodes and then their fields, one level deeper. -/
theorem validate_eq (query file : Node) :
    criteria.validate query file = criteria.compareNodes file query >>= fun level =>
      match level with
      | .mismatch => pure false
      | .settled => pure true
      | .pending fileKeys queryKeys =>
        if fileKeys.length = queryKeys.length then
          deeper (criteria.validateFields query.fields file)
        else throw (.fieldsMissing file.kind query.kind fileKeys queryKeys) := by
  obtain ⟨kind, span, named, text, fields⟩ := query
  exact validate.eq_1 criteria file kind span named text fields

/-- The validation of fields goes from one compared field to the next. -/
theorem validateFields_cons (name : String) (value : FieldValue Node)
    (fields : List (String × FieldValue Node)) (file : Node) :
    criteria.validateFields ((name, value) :: fields) file =
      if criteria.isCompared value then
        match file.field? name with
        | some actual => criteria.validateValue value actual >>= fun found =>
            if found then criteria.validateFields fields file else pure false
        | none => pure false
      else criteria.validateFields fields file :=
  validateFields.eq_2 criteria file name value fields

/-- Matching values is steady if it is steady for the nodes in them. -/
theorem steady_validateValue {query : FieldValue Node}
    (h : ∀ child ∈ query.nodes, ∀ file, Steady (criteria.validate child file))
    (file : FieldValue Node) : Steady (criteria.validateValue query file) := by
  unfold validateValue
  split
  · exact h _ (by simp [FieldValue.nodes]) _
  · exact (runsAlongside_yields.pure true).steady
  · exact (criteria.yields_validateSequence_of_steady h _).steady
  · exact (runsAlongside_yields.pure _).steady
  · exact (runsAlongside_yields.pure false).steady

/-- What the validation of a first field and of others after it yields. -/
theorem yields_validateFields_cons (name : String) {value : FieldValue Node}
    {fields : List (String × FieldValue Node)} {file : Node}
    (hvalue : ∀ actual, Steady (criteria.validateValue value actual))
    (hrest : Steady (criteria.validateFields fields file)) :
    Yields (criteria.validateFields ((name, value) :: fields) file)
      (if criteria.isCompared value then
        match file.field? name with
        | some actual => criteria.valueVerdict value actual >>= fun found =>
            if found then criteria.fieldsVerdict fields file else .ok false
        | none => .ok false
      else criteria.fieldsVerdict fields file) := by
  rw [validateFields_cons]
  split
  · split
    · refine runsAlongside_yields.bind (hvalue _) fun found => ?_
      cases found with
      | true => exact hrest
      | false => exact runsAlongside_yields.pure false
    · exact runsAlongside_yields.pure false
  · exact hrest

/-- Matching fields is steady if it is steady for the nodes in them. -/
theorem steady_validateFields {fields : List (String × FieldValue Node)}
    (h : ∀ name value, (name, value) ∈ fields → ∀ child ∈ value.nodes, ∀ file,
      Steady (criteria.validate child file)) (file : Node) :
    Steady (criteria.validateFields fields file) := by
  induction fields with
  | nil => exact (runsAlongside_yields.pure true).steady
  | cons entry fields ih =>
      obtain ⟨name, value⟩ := entry
      have hvalue := criteria.steady_validateValue (h name value List.mem_cons_self)
      have hrest := ih fun other held hmem => h other held (List.mem_cons_of_mem _ hmem)
      exact (criteria.yields_validateFields_cons name hvalue hrest).steady

/-- What follows the comparison of two nodes: settled nodes match, nodes that differ do not, and
otherwise the fields decide. -/
theorem yields_behind_level {query file : Node}
    (hfields : Steady (criteria.validateFields query.fields file)) (level : Comparison) :
    Yields
      (match level with
        | .mismatch => pure false
        | .settled => pure true
        | .pending fileKeys queryKeys =>
          if fileKeys.length = queryKeys.length then
            deeper (criteria.validateFields query.fields file)
          else throw (.fieldsMissing file.kind query.kind fileKeys queryKeys))
      (match level with
        | .mismatch => .ok false
        | .settled => .ok true
        | .pending fileKeys queryKeys =>
          if fileKeys.length = queryKeys.length then criteria.fieldsVerdict query.fields file
          else .error (.fieldsMissing file.kind query.kind fileKeys queryKeys)) := by
  cases level with
  | mismatch => exact runsAlongside_yields.pure false
  | settled => exact runsAlongside_yields.pure true
  | pending fileKeys queryKeys =>
      dsimp only
      split
      · exact hfields.deeper
      · exact yields_throw _

/-- What a validation yields. -/
theorem yields_validate {query file : Node}
    (hfields : Steady (criteria.validateFields query.fields file)) :
    Yields (criteria.validate query file)
      (match criteria.compareLevel file query with
        | .mismatch => .ok false
        | .settled => .ok true
        | .pending fileKeys queryKeys =>
          if fileKeys.length = queryKeys.length then criteria.fieldsVerdict query.fields file
          else .error (.fieldsMissing file.kind query.kind fileKeys queryKeys)) := by
  rw [validate_eq]
  exact runsAlongside_yields.bind (criteria.yields_compareNodes file query)
    (criteria.yields_behind_level hfields)

/-- **Matching is steady.**  Whatever the counters are, matching two nodes has the same outcome,
makes the same number of comparisons and leaves the depth as it was. -/
theorem steady_validate (query file : Node) : Steady (criteria.validate query file) := by
  induction query using Node.induction_on_children generalizing file with
  | step query ih =>
      refine (criteria.yields_validate (criteria.steady_validateFields ?_ file)).steady
      intro name value hmem child hchild file
      exact ih child (Node.mem_children_iff.mpr ⟨name, value, hmem, hchild⟩) file

/-- Matching a sequence is a search over elements that decide by the verdict. -/
theorem yields_validateSequence (queries files : List Node) :
    Yields (criteria.validateSequence queries files)
      (criteria.searchSequence (criteria.elements queries)
        (files.filter criteria.profile.isComparable)) :=
  criteria.yields_validateSequence_of_steady (fun query _ => criteria.steady_validate query) files

/-- Matching statements is a search over elements that decide by the verdict. -/
theorem yields_matchStatements (queries body : List Node) :
    Yields (criteria.matchStatements queries body)
      (criteria.searchStatements (criteria.elements queries)
        (body.filter criteria.profile.isComparable)) := by
  have haccepts := criteria.yields_accepts_wantedAll fun query (_ : query ∈ queries) =>
    criteria.steady_validate query
  rw [← map_onto_outcome_wantedAll]
  unfold matchStatements searchStatements
  dsimp only
  split
  · exact runsAlongside_yields.bind
      (Sequence.shortestWindows_alongside runsAlongside_yields
        (Sequence.glob_alongside runsAlongside_yields haccepts) _)
      fun windows => runsAlongside_yields.pure (windows.filterMap coverOf?)
  · refine runsAlongside_yields.bind
      (Sequence.claim_alongside runsAlongside_yields _ haccepts _) fun places => ?_
    cases places with
    | none => exact runsAlongside_yields.pure []
    | some places => exact runsAlongside_yields.pure _

/-! ### The laws of verdicts -/

/-- Validation gives the verdict, whatever the counters are. -/
theorem validate_fst_eq (query file : Node) (tally : Tally) :
    (criteria.validate query file tally).1 = criteria.verdict query file :=
  (criteria.steady_validate query file).fst_eq tally

/-- Settled nodes match, nodes that differ do not, and otherwise the fields decide. -/
theorem verdict_eq (query file : Node) :
    criteria.verdict query file =
      match criteria.compareLevel file query with
      | .mismatch => .ok false
      | .settled => .ok true
      | .pending fileKeys queryKeys =>
        if fileKeys.length = queryKeys.length then criteria.fieldsVerdict query.fields file
        else .error (.fieldsMissing file.kind query.kind fileKeys queryKeys) :=
  (criteria.yields_validate (criteria.steady_validateFields
    (fun _ _ _ child _ => criteria.steady_validate child) file)).outcome_eq

/-- No fields, no demands. -/
theorem fieldsVerdict_nil (file : Node) : criteria.fieldsVerdict [] file = .ok true := rfl

/-- Fields are matched one after the other, as long as they match. -/
theorem fieldsVerdict_cons (name : String) (value : FieldValue Node)
    (fields : List (String × FieldValue Node)) (file : Node) :
    criteria.fieldsVerdict ((name, value) :: fields) file =
      if criteria.isCompared value then
        match file.field? name with
        | some actual => criteria.valueVerdict value actual >>= fun found =>
            if found then criteria.fieldsVerdict fields file else .ok false
        | none => .ok false
      else criteria.fieldsVerdict fields file :=
  (criteria.yields_validateFields_cons name
    (criteria.steady_validateValue fun child _ => criteria.steady_validate child)
    (criteria.steady_validateFields
      (fun _ _ _ child _ => criteria.steady_validate child) file)).outcome_eq

/-- Fields match exactly if each compared field of the query matches the field of that name. -/
theorem fieldsVerdict_eq_true_iff {fields : List (String × FieldValue Node)} {file : Node} :
    criteria.fieldsVerdict fields file = .ok true ↔
      ∀ name value, (name, value) ∈ fields → criteria.isCompared value = true →
        ∃ actual, file.field? name = some actual ∧ criteria.valueVerdict value actual = .ok true := by
  induction fields with
  | nil => simp [fieldsVerdict_nil]
  | cons entry fields ih =>
      obtain ⟨name, value⟩ := entry
      have hcons : (∀ other held, (other, held) ∈ (name, value) :: fields →
            criteria.isCompared held = true → ∃ actual, file.field? other = some actual ∧
              criteria.valueVerdict held actual = .ok true) ↔
          (criteria.isCompared value = true → ∃ actual, file.field? name = some actual ∧
            criteria.valueVerdict value actual = .ok true) ∧
          criteria.fieldsVerdict fields file = .ok true := by
        rw [ih]
        constructor
        · intro h
          exact ⟨h name value List.mem_cons_self,
            fun other held hmem => h other held (List.mem_cons_of_mem _ hmem)⟩
        · rintro ⟨hhead, htail⟩ other held hmem
          rcases List.mem_cons.mp hmem with heq | hmem
          · obtain ⟨rfl, rfl⟩ := Prod.mk.inj heq
            exact hhead
          · exact htail other held hmem
      rw [hcons, fieldsVerdict_cons]
      cases criteria.isCompared value with
      | false => simp
      | true =>
          cases file.field? name with
          | none => simp
          | some actual =>
              cases hvalue : criteria.valueVerdict value actual with
              | error e => simp [bind, Except.bind, hvalue]
              | ok found => cases found <;> simp [bind, Except.bind, hvalue]

/-- Matching fields does not fail if matching the compared ones does not. -/
theorem fieldsVerdict_ok {fields : List (String × FieldValue Node)} {file : Node}
    (h : ∀ name value, (name, value) ∈ fields → criteria.isCompared value = true →
      ∀ actual, file.field? name = some actual →
        ∃ found, criteria.valueVerdict value actual = .ok found) :
    ∃ found, criteria.fieldsVerdict fields file = .ok found := by
  induction fields with
  | nil => exact ⟨true, rfl⟩
  | cons entry fields ih =>
      obtain ⟨name, value⟩ := entry
      obtain ⟨later, hlater⟩ := ih fun other held hmem => h other held (List.mem_cons_of_mem _ hmem)
      rw [fieldsVerdict_cons]
      split
      · rename_i hcompared
        split
        · rename_i actual hactual
          obtain ⟨found, hfound⟩ := h name value List.mem_cons_self hcompared actual hactual
          rw [hfound]
          cases found with
          | true => exact ⟨later, hlater⟩
          | false => exact ⟨false, rfl⟩
        · exact ⟨false, rfl⟩
      · exact ⟨later, hlater⟩

/-- A value that is compared at all stands under one of the compared names. -/
theorem mem_comparedFields_iff {query : Node} {name : String} :
    name ∈ criteria.comparedFields query ↔
      ∃ value, (name, value) ∈ query.fields ∧ criteria.isCompared value = true := by
  simp [comparedFields]

/-- **When nodes match.**  Either the comparison at their level settles it, or they agree outside of
their children and each compared field of the query matches the field of that name. -/
theorem verdict_eq_true_iff {query file : Node} :
    criteria.verdict query file = .ok true ↔
      criteria.compareLevel file query = .settled ∨
      ¬ criteria.DecidedAlone query ∧ AgreeOutside query file ∧
        ∀ name value, (name, value) ∈ query.fields → criteria.isCompared value = true →
          ∃ actual, file.field? name = some actual ∧
            criteria.valueVerdict value actual = .ok true := by
  rw [verdict_eq, ← fieldsVerdict_eq_true_iff]
  cases hlevel : criteria.compareLevel file query with
  | settled => simp
  | mismatch =>
      simp only [Except.ok.injEq, Bool.false_eq_true, reduceCtorEq, false_or, false_iff]
      rintro ⟨halone, hagree, -⟩
      have hpending := criteria.compareLevel_eq_pending_iff.mpr ⟨halone, hagree, rfl, rfl⟩
      rw [hlevel] at hpending
      cases hpending
  | pending fileKeys queryKeys =>
      obtain ⟨halone, hagree, rfl, rfl⟩ := criteria.compareLevel_eq_pending_iff.mp hlevel
      simp only [reduceCtorEq, false_or, halone, hagree, not_false_eq_true, true_and]
      split
      · rfl
      · rename_i hlength
        simp only [reduceCtorEq, false_iff]
        intro hfields
        rw [fieldsVerdict_eq_true_iff] at hfields
        apply hlength
        rw [List.filter_eq_self.mpr]
        intro name hname
        obtain ⟨value, hmem, hcompared⟩ := criteria.mem_comparedFields_iff.mp hname
        obtain ⟨actual, hactual, -⟩ := hfields name value hmem hcompared
        simp [hactual]

/-- Matching two nodes does not fail if nodes that agree have all compared fields in common, and if
matching these fields does not fail. -/
theorem verdict_ok {query file : Node}
    (hpresent : ¬ criteria.DecidedAlone query → query.kind = file.kind →
      ∀ name value, (name, value) ∈ query.fields → criteria.isCompared value = true →
        (file.field? name).isSome)
    (hvalues : ∀ name value, (name, value) ∈ query.fields → criteria.isCompared value = true →
      ∀ actual, file.field? name = some actual →
        ∃ found, criteria.valueVerdict value actual = .ok found) :
    ∃ found, criteria.verdict query file = .ok found := by
  rw [verdict_eq]
  cases hlevel : criteria.compareLevel file query with
  | settled => exact ⟨true, rfl⟩
  | mismatch => exact ⟨false, rfl⟩
  | pending fileKeys queryKeys =>
      obtain ⟨halone, hagree, rfl, rfl⟩ := criteria.compareLevel_eq_pending_iff.mp hlevel
      dsimp only
      rw [if_pos]
      · exact criteria.fieldsVerdict_ok hvalues
      · rw [List.filter_eq_self.mpr]
        intro name hname
        obtain ⟨value, hmem, hcompared⟩ := criteria.mem_comparedFields_iff.mp hname
        exact hpresent halone hagree.kind name value hmem hcompared

/-- If nodes agree and their other fields match, the sequences in the first field decide. -/
theorem verdict_eq_sequenceVerdict (name : String) (keys : List String) {query file : Node}
    (hlevel : criteria.compareLevel file query = .pending keys keys)
    (hfirst : query.fields.head? = some (name, .sequence (query.sequence name)))
    (hcompared : criteria.isCompared (.sequence (query.sequence name)) = true)
    (hfile : file.field? name = some (.sequence (file.sequence name)))
    (hothers : criteria.fieldsVerdict query.fields.tail file = .ok true) :
    criteria.verdict query file =
      criteria.sequenceVerdict (query.sequence name) (file.sequence name) := by
  rw [verdict_eq, hlevel]
  dsimp only
  rw [if_pos rfl, ← List.cons_head?_tail hfirst, fieldsVerdict_cons, if_pos hcompared, hfile,
    hothers]
  change criteria.sequenceVerdict (query.sequence name) (file.sequence name) >>= _ = _
  cases criteria.sequenceVerdict (query.sequence name) (file.sequence name) with
  | error e => rfl
  | ok found => cases found <;> rfl

/-- Nodes match if their verdict says so. -/
theorem isMatch_iff {query file : Node} :
    criteria.isMatch query file = true ↔ criteria.verdict query file = .ok true := by
  unfold isMatch
  cases criteria.verdict query file with
  | error e => simp [Sequence.decided]
  | ok found => simp [Sequence.decided]

/-- A verdict says whether the nodes match. -/
theorem verdict_eq_isMatch {query file : Node}
    (h : ∃ found, criteria.verdict query file = .ok found) :
    criteria.verdict query file = .ok (criteria.isMatch query file) := by
  obtain ⟨found, hfound⟩ := h
  simp [isMatch, hfound, Sequence.decided]

/-- What a node of a query sequence accepts, failures put aside. -/
theorem accepts_onto_decided_element (query file : Node) :
    (((criteria.element query).onto Sequence.decided).accepts file).run =
      criteria.acceptsNode query file := by
  simp only [Wanted.onto, element, acceptsNode, isMatch]
  split
  · rename_i hsingle
    simp [hsingle, Sequence.decided]
  · rename_i hnone
    simp [hnone]

/-- An element of a query sequence accepts any node if it is a wildcard for one, and otherwise the
nodes that it matches. -/
theorem acceptsNode_iff {query file : Node} :
    criteria.acceptsNode query file = true ↔
      criteria.profile.elementWildcard? query = some .single ∨
        criteria.verdict query file = .ok true := by
  rw [acceptsNode, Bool.or_eq_true, decide_eq_true_eq, isMatch_iff]

/-- The verdict on two sequences is the search for the one in the other. -/
theorem sequenceVerdict_eq (query file : List Node) :
    criteria.sequenceVerdict query file =
      criteria.searchSequence (criteria.elements query)
        (file.filter criteria.profile.isComparable) :=
  (criteria.yields_validateSequence query file).outcome_eq

end Criteria

end StructuralSearch
