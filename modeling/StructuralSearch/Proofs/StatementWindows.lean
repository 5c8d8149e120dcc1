import StructuralSearch.Proofs.SequenceVerdict

/-!
# Windows of statements

In exact mode the statements of a query are looked for in windows: stretches of consecutive
statements of a body, comparable nodes only on both sides.  From each statement on, the windows are
tried from the shortest one up, and the first one that is accepted ends the search there.

The local fact is `shortestStretch_spec`: from one start on, the search misses no window and finds no
longer one than it must.  `exists_starts_of_shortestWindows` goes through all starts.  What a window
is needs no search (`Criteria.IsWindow`), and `windows_exact` says that the spans of statements are
those of the shortest windows, one for each start at which there is a window at all.
-/

namespace StructuralSearch

namespace Sequence

variable {α : Type} {holds : List α → Prop} {file : List α} {start stop : Nat}

/-- The elements of a list from `start` on and before `stop` are a window: there are such elements,
and the property holds of them. -/
structure IsWindow (holds : List α → Prop) (file : List α) (start stop : Nat) : Prop where
  nonempty : start < stop
  inside : stop ≤ file.length
  accepted : holds (file.extract start stop)

/-- A window that ends no later than any other window with the same start. -/
structure IsShortestWindow (holds : List α → Prop) (file : List α) (start stop : Nat) : Prop
    extends IsWindow holds file start stop where
  shortest : ∀ other, IsWindow holds file start other → stop ≤ other

/-- A window has as many elements as lie between its ends. -/
theorem IsWindow.length_extract (h : IsWindow holds file start stop) :
    (file.extract start stop).length = stop - start := by
  have := h.inside
  rw [List.extract_eq_take_drop, List.length_take, List.length_drop]
  omega

theorem IsWindow.extract_ne_nil (h : IsWindow holds file start stop) :
    file.extract start stop ≠ [] := by
  have hlength := h.length_extract
  have hnonempty := h.nonempty
  intro hnil
  rw [hnil, List.length_nil] at hlength
  omega

/-- The windows that do not begin with the first element are those of the list behind it. -/
theorem isWindow_cons_succ_iff {x : α} :
    IsWindow holds (x :: file) (start + 1) (stop + 1) ↔ IsWindow holds file start stop := by
  have hextract : (x :: file).extract (start + 1) (stop + 1) = file.extract start stop := by
    simp [List.extract_eq_take_drop]
  constructor
  · intro h
    refine ⟨Nat.lt_of_succ_lt_succ h.nonempty, Nat.le_of_succ_le_succ h.inside, ?_⟩
    exact hextract ▸ h.accepted
  · intro h
    refine ⟨Nat.succ_lt_succ h.nonempty, Nat.succ_le_succ h.inside, ?_⟩
    exact hextract ▸ h.accepted

/-- At a later start there is a window exactly if there is one in the list behind the first element.
-/
theorem exists_isWindow_cons_succ_iff {x : α} :
    (∃ stop, IsWindow holds (x :: file) (start + 1) stop) ↔
      ∃ stop, IsWindow holds file start stop := by
  constructor
  · intro h
    obtain ⟨stop, hstop⟩ := h
    cases stop with
    | zero => exact absurd hstop.nonempty (Nat.not_lt_zero _)
    | succ stop => exact ⟨stop, isWindow_cons_succ_iff.mp hstop⟩
  · intro h
    obtain ⟨stop, hstop⟩ := h
    exact ⟨stop + 1, isWindow_cons_succ_iff.mpr hstop⟩

/-- A shortest window stays one when an element is put in front. -/
theorem IsShortestWindow.cons (x : α) (h : IsShortestWindow holds file start stop) :
    IsShortestWindow holds (x :: file) (start + 1) (stop + 1) where
  toIsWindow := isWindow_cons_succ_iff.mpr h.toIsWindow
  shortest other hother := by
    cases other with
    | zero => exact absurd hother.nonempty (Nat.not_lt_zero _)
    | succ other => exact Nat.succ_le_succ (h.shortest other (isWindow_cons_succ_iff.mp hother))

/-- A list with a shortest window in it, divided at its ends: no proper beginning of the window has
the property. -/
theorem IsShortestWindow.exists_split (h : IsShortestWindow holds file start stop) :
    ∃ before after, file = before ++ (file.extract start stop ++ after) ∧
      file.extract start stop ≠ [] ∧ ∀ shorter rest, file.extract start stop = shorter ++ rest →
        shorter ≠ [] → rest ≠ [] → ¬ holds shorter := by
  have hlength := h.length_extract
  have hnonempty := h.nonempty
  have hinside := h.inside
  refine ⟨file.take start, file.drop stop, ?_, h.extract_ne_nil, ?_⟩
  · have hstop : file.drop stop = (file.drop start).drop (stop - start) := by
      rw [List.drop_drop, Nat.add_sub_cancel' hnonempty.le]
    rw [hstop, List.extract_eq_take_drop, List.take_append_drop, List.take_append_drop]
  · intro shorter rest hsplit hshorter hrest hholds
    have hpositive := List.length_pos_of_ne_nil hshorter
    have hothers := List.length_pos_of_ne_nil hrest
    rw [hsplit, List.length_append] at hlength
    have hextract : file.extract start (start + shorter.length) = shorter := by
      have htake := congrArg (List.take shorter.length) hsplit
      rw [List.take_left, List.extract_eq_take_drop, List.take_take,
        Nat.min_eq_left (by omega)] at htake
      rwa [List.extract_eq_take_drop, Nat.add_sub_cancel_left]
    have hstop := h.shortest (start + shorter.length) ⟨by omega, by omega, hextract.symm ▸ hholds⟩
    omega

/-- A list is the shortest window of the file at a start. -/
def FoundAt (holds : List α → Prop) (file : List α) (start : Nat) (window : List α) : Prop :=
  ∃ stop, IsShortestWindow holds file start stop ∧ window = file.extract start stop

/-- What is found at a start is found at the next one when an element is put in front. -/
theorem FoundAt.cons (x : α) {window : List α} (h : FoundAt holds file start window) :
    FoundAt holds (x :: file) (start + 1) window := by
  obtain ⟨stop, hstop, rfl⟩ := h
  exact ⟨stop + 1, hstop.cons x, by simp [List.extract_eq_take_drop]⟩

/-- Starts in the list behind the first element, as starts in the whole list. -/
theorem succ_mem_map_starts_iff (x : α) {starts : List Nat}
    (hstarts : ∀ start, start ∈ starts ↔ ∃ stop, IsWindow holds file start stop) :
    start + 1 ∈ starts.map (· + 1) ↔ ∃ stop, IsWindow holds (x :: file) (start + 1) stop := by
  rw [exists_isWindow_cons_succ_iff, ← hstarts,
    List.mem_map_of_injective (fun _ _ => Nat.succ.inj)]

/-- What a test accepts. -/
abbrev AcceptedBy (test : List α → Id Bool) (part : List α) : Prop :=
  (test part).run = true

/-- **One start.**  If no window ends with the elements that are taken already, the search finds the
shortest window from the first element on, and finds nothing only if there is none. -/
theorem shortestStretch_spec (test : List α → Id Bool) (taken rest : List α)
    (hnone : ∀ stop ≤ taken.length, ¬ IsWindow (AcceptedBy test) (taken ++ rest) 0 stop) :
    (∀ window, (shortestStretch test taken rest).run = some window →
      FoundAt (AcceptedBy test) (taken ++ rest) 0 window) ∧
    ((shortestStretch test taken rest).run = none →
      ∀ stop, ¬ IsWindow (AcceptedBy test) (taken ++ rest) 0 stop) := by
  -- Each round takes one element more, while the whole list stays the same.
  induction rest generalizing taken with
  | nil =>
      constructor
      · intro window h
        cases h
      · intro _ stop hstop
        exact hnone stop (by simpa using hstop.inside) hstop
  | cons x rest ih =>
      have hextract : (taken ++ x :: rest).extract 0 (taken.length + 1) = taken ++ [x] := by
        rw [List.extract_eq_take_drop, List.drop_zero, Nat.sub_zero, List.take_length_add_append]
        rfl
      rw [shortestStretch, Id.run_bind]
      cases hfound : (test (taken ++ [x])).run with
      | true =>
          constructor
          · intro window h
            obtain rfl := Option.some.inj h
            refine ⟨taken.length + 1, ⟨⟨Nat.succ_pos _, ?_, ?_⟩, ?_⟩, hextract.symm⟩
            · simp
            · exact hextract ▸ hfound
            · intro other hother
              by_contra hless
              exact hnone other (by omega) hother
          · intro h
            cases h
      | false =>
          have happend : taken ++ x :: rest = (taken ++ [x]) ++ rest := by simp
          rw [happend] at hextract hnone ⊢
          apply ih (taken ++ [x])
          intro stop hstop hwindow
          rw [List.length_append, List.length_singleton] at hstop
          by_cases hlast : stop = taken.length + 1
          · have haccepted := hwindow.accepted
            rw [hlast, hextract, AcceptedBy, hfound] at haccepted
            cases haccepted
          · exact hnone stop (by omega) hwindow

/-- **All starts.**  The search finds one window for each start at which there is one, in the order of
the starts, and that is the shortest one. -/
theorem exists_starts_of_shortestWindows (test : List α → Id Bool) (file : List α) :
    ∃ starts : List Nat, starts.Pairwise (· < ·) ∧
      (∀ start, start ∈ starts ↔ ∃ stop, IsWindow (AcceptedBy test) file start stop) ∧
      List.Forall₂ (FoundAt (AcceptedBy test) file) starts (shortestWindows test file).run := by
  induction file with
  | nil =>
      refine ⟨[], .nil, fun start => ?_, .nil⟩
      constructor
      · intro h
        cases h
      · intro h
        obtain ⟨stop, hstop⟩ := h
        exact absurd hstop.nonempty (Nat.not_lt.mpr (hstop.inside.trans (Nat.zero_le _)))
  | cons x file ih =>
      obtain ⟨starts, hincreasing, hstarts, hwindows⟩ := ih
      obtain ⟨hsome, hnone⟩ := shortestStretch_spec test [] (x :: file)
        fun stop hstop hwindow => Nat.not_lt.mpr hstop hwindow.nonempty
      have hmoved : (starts.map (· + 1)).Pairwise (· < ·) :=
        hincreasing.map (· + 1) fun _ _ => Nat.succ_lt_succ
      have hlater : List.Forall₂ (FoundAt (AcceptedBy test) (x :: file)) (starts.map (· + 1))
          (shortestWindows test file).run :=
        List.forall₂_map_left_iff.mpr (hwindows.imp fun _ _ h => h.cons x)
      rw [shortestWindows, Id.run_bind, Id.run_bind, Id.run_pure]
      cases hhere : (shortestStretch test [] (x :: file)).run with
      | none =>
          refine ⟨starts.map (· + 1), hmoved, fun start => ?_, hlater⟩
          cases start with
          | zero =>
              constructor
              · intro h
                simp at h
              · intro h
                obtain ⟨stop, hstop⟩ := h
                exact absurd hstop (hnone hhere stop)
          | succ start => exact succ_mem_map_starts_iff x hstarts
      | some window =>
          have hfound := hsome window hhere
          refine ⟨0 :: starts.map (· + 1), ?_, fun start => ?_, .cons hfound hlater⟩
          · exact List.pairwise_cons.mpr ⟨by simp, hmoved⟩
          · obtain ⟨stop, hstop, -⟩ := hfound
            cases start with
            | zero => exact ⟨fun _ => ⟨stop, hstop.toIsWindow⟩, fun _ => List.mem_cons_self⟩
            | succ start =>
                rw [← succ_mem_map_starts_iff x hstarts, List.mem_cons]
                simp

end Sequence

namespace Criteria

variable {criteria : Criteria} {queries body files : List Node} {start stop : Nat}

/-- The comparable nodes of a query sequence can be laid over a list of nodes, one over each that it
accepts, and rest wildcards over any number of them. -/
def Globs (criteria : Criteria) (queries : List Node) : List Node → Prop :=
  Aligned (fun query => criteria.profile.elementWildcard? query = some .rest)
    (fun query file => criteria.acceptsNode query file = true)
    (queries.filter criteria.profile.isComparable)

/-- The comparable statements of a body from `start` on and before `stop` are a window for the
statements of a query. -/
abbrev IsWindow (criteria : Criteria) (queries body : List Node) (start stop : Nat) : Prop :=
  Sequence.IsWindow (criteria.Globs queries) (body.filter criteria.profile.isComparable) start stop

/-- There is no shorter window with the same start. -/
abbrev IsShortestWindow (criteria : Criteria) (queries body : List Node) (start stop : Nat) : Prop :=
  Sequence.IsShortestWindow (criteria.Globs queries)
    (body.filter criteria.profile.isComparable) start stop

/-- What the search for windows accepts, failures put aside. -/
theorem acceptedBy_glob_eq (criteria : Criteria) (queries : List Node) :
    Sequence.AcceptedBy (Sequence.glob ((criteria.elements queries).map
      (Wanted.onto Sequence.decided))) = criteria.Globs queries := by
  funext part
  exact propext glob_elements_eq_true_iff

/-- Without rest wildcards, statements are laid over as many others, each over one that it accepts. -/
theorem globs_iff_forall₂ (hrest : ∀ query ∈ queries.filter criteria.profile.isComparable,
      criteria.profile.elementWildcard? query ≠ some .rest) :
    criteria.Globs queries files ↔
      List.Forall₂ (fun query file => criteria.acceptsNode query file = true)
        (queries.filter criteria.profile.isComparable) files :=
  Aligned.forall₂_iff hrest

/-- The statements that ask for an element are the only ones that decide. -/
theorem decides_of_claimants (hsure : ∀ query ∈ criteria.claimants queries, ∀ file ∈ files,
      ∃ accepted, (criteria.element query).accepts file = .ok accepted) :
    Sequence.Decides (criteria.elements queries) files := by
  intro wanted hwanted hasked file hfile
  obtain ⟨query, hquery, rfl⟩ := List.mem_map.mp hwanted
  have hclaimant : query ∈ criteria.claimants queries :=
    List.mem_filter.mpr ⟨hquery, bne_iff_ne.mpr (beq_eq_false_iff_ne.mp hasked)⟩
  exact hsure query hclaimant file hfile

/-- A search in exact mode that does not fail finds the windows that are found when failures are put
aside. -/
theorem windows_of_searchStatements (hexact : criteria.mode = .exact) {spans : List Span}
    (h : criteria.searchStatements (criteria.elements queries) files = .ok spans) :
    spans = (Sequence.shortestWindows (Sequence.glob ((criteria.elements queries).map
      (Wanted.onto Sequence.decided))) files).run.filterMap coverOf? := by
  unfold searchStatements at h
  rw [if_pos hexact] at h
  cases hwindows : Sequence.shortestWindows (Sequence.glob (criteria.elements queries)) files with
  | error e =>
      rw [hwindows] at h
      cases h
  | ok windows =>
      rw [hwindows] at h
      cases h
      rw [← Sequence.shortestWindows_alongside Sequence.runsAlongside_decided
        (Sequence.glob_alongside Sequence.runsAlongside_decided
          fun wanted _ x => Sequence.eq_decided_of_ok (wanted.accepts x)) _ windows hwindows]

/-- The span of a window goes from its first statement to its last one. -/
theorem exists_coverOf?_eq {nodes : List Node} (h : nodes ≠ []) :
    ∃ span, coverOf? nodes = some span := by
  rw [coverOf?, List.head?_eq_some_head h, List.getLast?_eq_some_getLast h]
  exact ⟨_, rfl⟩

/-- Lists of nodes that have spans keep their partners when they are replaced by their spans. -/
theorem forall₂_filterMap_coverOf? {β : Type} {R : β → List Node → Prop} {items : List β}
    {windows : List (List Node)} (h : List.Forall₂ R items windows)
    (hspan : ∀ item window, R item window → ∃ span, coverOf? window = some span) :
    List.Forall₂ (fun item span => ∃ window, R item window ∧ coverOf? window = some span) items
      (windows.filterMap coverOf?) := by
  induction h with
  | nil => exact .nil
  | cons hwindow _ ih =>
      obtain ⟨span, hcover⟩ := hspan _ _ hwindow
      rw [List.filterMap_cons_some hcover]
      exact .cons ⟨_, hwindow, hcover⟩ ih

/-- A search in exact mode that does not fail finds one span for each start of a window, that of the
shortest window, in the order of the starts. -/
theorem exists_starts_of_searchStatements (hexact : criteria.mode = .exact) {spans : List Span}
    (h : criteria.searchStatements (criteria.elements queries)
      (body.filter criteria.profile.isComparable) = .ok spans) :
    ∃ starts : List Nat, starts.Pairwise (· < ·) ∧
      (∀ start, start ∈ starts ↔ ∃ stop, criteria.IsWindow queries body start stop) ∧
      List.Forall₂ (fun start span => ∃ stop,
        criteria.IsShortestWindow queries body start stop ∧
          coverOf? ((body.filter criteria.profile.isComparable).extract start stop) = some span)
        starts spans := by
  obtain ⟨starts, hincreasing, hstarts, hwindows⟩ := Sequence.exists_starts_of_shortestWindows
    (Sequence.glob ((criteria.elements queries).map (Wanted.onto Sequence.decided)))
    (body.filter criteria.profile.isComparable)
  rw [acceptedBy_glob_eq] at hstarts hwindows
  refine ⟨starts, hincreasing, hstarts, ?_⟩
  rw [windows_of_searchStatements hexact h]
  refine (forall₂_filterMap_coverOf? hwindows ?_).imp ?_
  · intro start window hwindow
    obtain ⟨stop, hstop, rfl⟩ := hwindow
    exact exists_coverOf?_eq hstop.extract_ne_nil
  · intro start span hspan
    obtain ⟨window, ⟨stop, hstop, rfl⟩, hcover⟩ := hspan
    exact ⟨stop, hstop, hcover⟩

/-- **Statements in exact mode.**  If no statement of a query fails to decide on a statement of a
body, there is a result.  Where there is a result, it holds one span for each start of a window and
nothing else, in the order of the starts: the span from the first statement of the shortest window to
its last one.  If no statement is a rest wildcard, a window has as many statements as the query and
is matched by them one by one. -/
theorem windows_exact (hexact : criteria.mode = .exact) (queries body : List Node) (tally : Tally) :
    ((∀ query ∈ criteria.claimants queries, ∀ file ∈ body.filter criteria.profile.isComparable,
        ∃ accepted, (criteria.element query).accepts file = .ok accepted) →
      ∃ spans, (criteria.matchStatements queries body tally).1 = .ok spans) ∧
    (∀ spans, (criteria.matchStatements queries body tally).1 = .ok spans →
      ∃ starts : List Nat, starts.Pairwise (· < ·) ∧
        (∀ start, start ∈ starts ↔ ∃ stop, criteria.IsWindow queries body start stop) ∧
        List.Forall₂ (fun start span => ∃ stop,
          criteria.IsShortestWindow queries body start stop ∧
            coverOf? ((body.filter criteria.profile.isComparable).extract start stop) = some span)
          starts spans) ∧
    ((∀ query ∈ queries.filter criteria.profile.isComparable,
        criteria.profile.elementWildcard? query ≠ some .rest) →
      ∀ start stop, criteria.IsWindow queries body start stop →
        stop - start = (queries.filter criteria.profile.isComparable).length ∧
        List.Forall₂ (fun query file => criteria.acceptsNode query file = true)
          (queries.filter criteria.profile.isComparable)
          ((body.filter criteria.profile.isComparable).extract start stop)) := by
  rw [(criteria.yields_matchStatements queries body).fst_eq tally]
  refine ⟨fun hsure => searchStatements_ok criteria (decides_of_claimants hsure),
    fun spans hspans => exists_starts_of_searchStatements hexact hspans, ?_⟩
  intro hrest start stop hwindow
  have hpairs := (globs_iff_forall₂ hrest).mp hwindow.accepted
  exact ⟨hwindow.length_extract.symm.trans hpairs.length_eq.symm, hpairs⟩

/-- In `a b c b` there is a window for `$$$ b` at each start, up to the next `b`, and one of two names
for `b $$`. -/
theorem windows_of_names :
    let criteria : Criteria := ⟨.typescript, .exact, false⟩
    let leading : List Node := [.nameAt "$$$" 0 3, .nameAt "b" 4 5]
    let pair : List Node := [.nameAt "b" 0 1, .nameAt "$$" 2 4]
    let body : List Node := [.nameAt "a" 0 1, .nameAt "b" 2 3, .nameAt "c" 4 5, .nameAt "b" 6 7]
    criteria.mode = .exact ∧
    (criteria.matchStatements leading body {}).1 =
      .ok [⟨⟨1, 1, 0⟩, ⟨1, 4, 3⟩⟩, ⟨⟨1, 3, 2⟩, ⟨1, 4, 3⟩⟩, ⟨⟨1, 5, 4⟩, ⟨1, 8, 7⟩⟩,
        ⟨⟨1, 7, 6⟩, ⟨1, 8, 7⟩⟩] ∧
    (∃ starts : List Nat, starts.length = 4 ∧ starts.Pairwise (· < ·) ∧
      ∀ start, start ∈ starts ↔ ∃ stop, criteria.IsWindow leading body start stop) ∧
    (∃ spans, (criteria.matchStatements pair body {}).1 = .ok spans) ∧
    ∃ start stop, criteria.IsWindow pair body start stop ∧ stop - start = 2 := by
  intro criteria leading pair body
  have hleading : (criteria.matchStatements leading body {}).1 =
      .ok [⟨⟨1, 1, 0⟩, ⟨1, 4, 3⟩⟩, ⟨⟨1, 3, 2⟩, ⟨1, 4, 3⟩⟩, ⟨⟨1, 5, 4⟩, ⟨1, 8, 7⟩⟩,
        ⟨⟨1, 7, 6⟩, ⟨1, 8, 7⟩⟩] := by decide +kernel
  have hpair : (criteria.matchStatements pair body {}).1 =
      .ok [⟨⟨1, 3, 2⟩, ⟨1, 6, 5⟩⟩] := by decide +kernel
  have hsure : ∀ query ∈ criteria.claimants pair,
      ∀ file ∈ body.filter criteria.profile.isComparable,
      ∃ accepted, (criteria.element query).accepts file = .ok accepted := by
    have hdecided : ∀ query ∈ criteria.claimants pair,
        ∀ file ∈ body.filter criteria.profile.isComparable,
        (criteria.element query).accepts file = .ok true ∨
          (criteria.element query).accepts file = .ok false := by decide +kernel
    intro query hquery file hfile
    rcases hdecided query hquery file hfile with h | h
    · exact ⟨true, h⟩
    · exact ⟨false, h⟩
  have hrest : ∀ query ∈ pair.filter criteria.profile.isComparable,
      criteria.profile.elementWildcard? query ≠ some .rest := by decide +kernel
  have hexact : criteria.mode = .exact := rfl
  obtain ⟨starts, hincreasing, hstarts, hspans⟩ :=
    (windows_exact hexact leading body {}).2.1 _ hleading
  obtain ⟨hresult, hwindows, hlengths⟩ := windows_exact hexact pair body {}
  obtain ⟨pairStarts, -, -, hpairs⟩ := hwindows _ hpair
  obtain ⟨start, _, ⟨stop, hstop, -⟩, -, -⟩ := List.forall₂_cons_right_iff.mp hpairs
  exact ⟨hexact, hleading, ⟨starts, hspans.length_eq, hincreasing, hstarts⟩, hresult hsure,
    start, stop, hstop.toIsWindow, (hlengths hrest start stop hstop.toIsWindow).1⟩

end Criteria

end StructuralSearch
