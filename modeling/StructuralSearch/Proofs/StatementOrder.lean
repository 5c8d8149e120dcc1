import StructuralSearch.Proofs.ModeOrder
import StructuralSearch.Proofs.StatementWindows

/-!
# Statements from mode to mode

Statements are reported in another way than nodes: in exact mode every shortest window of a body
that the statements match, in the include modes one stretch from the first to the last claimed
statement.  Of two windows in a body at most one is therefore reported with order.

The stretch is the window if each statement of the query accepts at most one statement of the body
(`Unambiguous`) and the query does not begin with a rest wildcard.
-/

namespace StructuralSearch

namespace Criteria

/-- Each element of a query sequence accepts at most one node of a body. -/
def Unambiguous (criteria : Criteria) (queries body : List Node) : Prop :=
  ∀ query ∈ criteria.claimants queries, ∀ i j,
    criteria.TakesAt (body.filter criteria.profile.isComparable) query i →
    criteria.TakesAt (body.filter criteria.profile.isComparable) query j → i = j

/-- A query sequence begins with a node that asks for an element, if it has comparable nodes. -/
def BeginsAsking (criteria : Criteria) (queries : List Node) : Prop :=
  ∀ first ∈ (queries.filter criteria.profile.isComparable).head?, criteria.asks first = true

variable {criteria : Criteria} {queries body files : List Node}

/-- If each node of a query sequence accepts only the node at its place, the claims come out at these
places. -/
theorem claim_eq_some_of_unique {ordered : Bool} {places : List Nat}
    (hunique : ∀ query ∈ criteria.claimants queries, ∀ i j, criteria.TakesAt files query i →
      criteria.TakesAt files query j → i = j)
    (htakes : List.Forall₂ (criteria.TakesAt files) (criteria.claimants queries) places)
    (hdistinct : places.Nodup) (hincreasing : ordered = true → places.Pairwise (· < ·)) :
    (Sequence.claim ordered (criteria.choosers queries) files).run = some places := by
  obtain ⟨found, hfound, -⟩ := Sequence.exists_claim_le
    (fun wanted => isRest_of_mem_choosers) (forall₂_choosers htakes) hdistinct (by
      intro i j target other wanted x _ hwanted htarget _ hless hx
      obtain ⟨query, hquery, -, haccepts⟩ := exists_claimant hwanted
      rw [haccepts]
      by_contra hother
      rw [Bool.not_eq_false] at hother
      have hsame := hunique query (List.mem_of_getElem? hquery) other target ⟨x, hx, hother⟩
        (Sequence.rel_of_forall₂ htakes hquery htarget)
      omega)
  have hplaces : found = places := by
    have hagain := (takesAt_of_claim hfound).1
    apply List.ext_getElem (hagain.length_eq.symm.trans htakes.length_eq)
    intro i hi hj
    have hlength : i < (criteria.claimants queries).length := hagain.length_eq ▸ hi
    have hquery : (criteria.claimants queries)[i]? = some (criteria.claimants queries)[i] :=
      List.getElem?_eq_getElem hlength
    exact hunique _ (List.getElem_mem _) _ _
      (Sequence.rel_of_forall₂ hagain hquery (List.getElem?_eq_getElem hi))
      (Sequence.rel_of_forall₂ htakes hquery (List.getElem?_eq_getElem hj))
  obtain ⟨hfits, hclaims, -⟩ := Sequence.claim_eq_some_iff.mp hfound
  exact Sequence.claim_eq_some_iff.mpr ⟨hfits, hplaces ▸ hclaims, hincreasing⟩

/-- A stretch that is claimed at its first and its last place is covered from end to end. -/
theorem coverOfPlaces?_of_window {before window after : List Node} {places : List Nat}
    (hwindow : window ≠ []) (hfirst : 0 ∈ places) (hlast : window.length - 1 ∈ places)
    (hbound : ∀ place ∈ places, place < window.length) :
    coverOfPlaces? (before ++ (window ++ after)) (places.map (· + before.length)) =
      coverOf? window := by
  have hpositive := List.length_pos_of_ne_nil hwindow
  have hmin : (places.map (· + before.length)).min? = some before.length := by
    rw [List.min?_eq_some_iff]
    refine ⟨List.mem_map.mpr ⟨0, hfirst, by simp⟩, fun place hplace => ?_⟩
    obtain ⟨_, -, rfl⟩ := List.mem_map.mp hplace
    exact Nat.le_add_left _ _
  have hmax : (places.map (· + before.length)).max? =
      some (window.length - 1 + before.length) := by
    rw [List.max?_eq_some_iff]
    refine ⟨List.mem_map.mpr ⟨_, hlast, rfl⟩, fun place hplace => ?_⟩
    obtain ⟨_, hmem, rfl⟩ := List.mem_map.mp hplace
    have := hbound _ hmem
    omega
  have hget : ∀ place, place < window.length →
      (before ++ (window ++ after))[place + before.length]? = window[place]? := by
    intro place hplace
    rw [List.getElem?_append_right (Nat.le_add_left _ _), Nat.add_sub_cancel,
      List.getElem?_append_left hplace]
  have hhead := hget 0 hpositive
  have htail := hget (window.length - 1) (by omega)
  rw [Nat.zero_add] at hhead
  rw [coverOfPlaces?, hmin, hmax, coverOf?, List.head?_eq_getElem?, List.getLast?_eq_getElem?]
  simp only [Option.bind_eq_bind, Option.bind_some, hhead, htail]
  rw [List.getElem?_eq_getElem hpositive,
    List.getElem?_eq_getElem (show window.length - 1 < window.length by omega)]
  rfl

/-- If a query begins with a node that asks for an element, a shortest window for it begins and ends
with elements that are taken. -/
theorem exists_places_of_window {window : List Node} (hbegins : criteria.BeginsAsking queries)
    (hwindow : window ≠ []) (hglobs : criteria.Globs queries window)
    (hshortest : ∀ shorter rest, window = shorter ++ rest → shorter ≠ [] → rest ≠ [] →
      ¬ criteria.Globs queries shorter) :
    ∃ places, List.Forall₂ (criteria.TakesAt window) (criteria.claimants queries) places ∧
      places.Pairwise (· < ·) ∧ 0 ∈ places ∧ window.length - 1 ∈ places := by
  unfold Globs at hglobs
  obtain ⟨piece, rest, rfl, haligned, places, htakes, hincreasing, hfirst, hlast⟩ :=
    hglobs.exists_trimmed criteria.asks_iff
  have hzero : 0 ∈ places := by
    cases hqueries : queries.filter criteria.profile.isComparable with
    | nil =>
        rw [hqueries, Aligned.nil_iff] at hglobs
        exact absurd hglobs hwindow
    | cons first later =>
        have hhead : first ∈ (queries.filter criteria.profile.isComparable).head? := by
          rw [hqueries]
          rfl
        exact hfirst first hhead ((criteria.asks_iff first).mp (hbegins first hhead))
  have hpiece : piece ≠ [] := by
    rintro rfl
    exact absurd (Sequence.lt_length_of_mem_places htakes hzero) (Nat.not_lt_zero 0)
  have hrest : rest = [] := by
    by_contra hrest
    exact hshortest piece rest rfl hpiece hrest haligned
  subst hrest
  rw [List.append_nil]
  exact ⟨places, htakes, hincreasing, hzero, hlast hpiece⟩

/-- A span that is reported in exact mode is that of a shortest window. -/
theorem exists_window_of_mem_stretches (hexact : criteria.mode = .exact) {span : Span}
    (h : span ∈ criteria.stretches queries body) :
    ∃ start stop, criteria.IsShortestWindow queries body start stop ∧
      coverOf? ((body.filter criteria.profile.isComparable).extract start stop) = some span := by
  unfold stretches at h
  cases hspans : criteria.searchStatements (criteria.elements queries)
      (body.filter criteria.profile.isComparable) with
  | error e =>
      rw [hspans] at h
      cases h
  | ok spans =>
      rw [hspans] at h
      obtain ⟨starts, -, -, hwindows⟩ := exists_starts_of_searchStatements hexact hspans
      obtain ⟨i, hi, rfl⟩ := List.mem_iff_getElem.mp h
      exact ⟨_, hwindows.get (hwindows.length_eq.symm ▸ hi) hi⟩

/-- The span that is reported in an include mode is that of the claimed places. -/
theorem stretches_of_claim (hmode : criteria.mode ≠ .exact)
    (hdecides : Sequence.Decides (criteria.elements queries)
      (body.filter criteria.profile.isComparable)) {places : List Nat}
    (h : (Sequence.claim (criteria.mode == .includeOrdered) (criteria.choosers queries)
      (body.filter criteria.profile.isComparable)).run = some places) :
    criteria.stretches queries body =
      (coverOfPlaces? (body.filter criteria.profile.isComparable) places).toList := by
  unfold stretches searchStatements
  rw [if_neg hmode, Sequence.claim_eq_ok _ hdecides, claim_elements, h]
  rfl

/-- A span that is reported in an include mode comes from successful claims. -/
theorem exists_claim_of_mem_stretches (hmode : criteria.mode ≠ .exact) {span : Span}
    (h : span ∈ criteria.stretches queries body) :
    ∃ places, (Sequence.claim (criteria.mode == .includeOrdered) (criteria.choosers queries)
      (body.filter criteria.profile.isComparable)).run = some places ∧
      coverOfPlaces? (body.filter criteria.profile.isComparable) places = some span := by
  unfold stretches searchStatements at h
  rw [if_neg hmode] at h
  cases hclaim : Sequence.claim (criteria.mode == .includeOrdered) (criteria.elements queries)
      (body.filter criteria.profile.isComparable) with
  | error e => simp [hclaim, Functor.map, Except.map, Except.toOption] at h
  | ok claimed =>
      have hrun := Sequence.claim_alongside Sequence.runsAlongside_decided
        (criteria.mode == .includeOrdered)
        (fun wanted _ x => Sequence.eq_decided_of_ok (wanted.accepts x)) _ claimed hclaim
      rw [claim_elements] at hrun
      cases claimed with
      | none => simp [hclaim, Functor.map, Except.map, Except.toOption] at h
      | some places =>
          rw [hclaim] at h
          exact ⟨places, hrun.symm, Option.mem_toList.mp h⟩

/-- **Windows and stretches.**  If a query does not begin with a rest wildcard and each of its
statements accepts with order at most one statement of a body, then all windows that are reported in
exact mode are the stretch that is reported with order. -/
theorem stretches_includeOrdered (hbegins : criteria.BeginsAsking queries)
    (hunique : (criteria.inMode .includeOrdered).Unambiguous queries body)
    (hok : ∀ mode, ∀ query ∈ queries, ∀ file ∈ body,
      ∃ found, (criteria.inMode mode).verdict query file = .ok found)
    (hnodes : ∀ query ∈ queries, ∀ file ∈ body,
      (criteria.inMode .exact).verdict query file = .ok true →
      (criteria.inMode .includeOrdered).verdict query file = .ok true) :
    (criteria.inMode .exact).stretches queries body ⊆
      (criteria.inMode .includeOrdered).stretches queries body := by
  intro span hspan
  obtain ⟨start, stop, hstop, hcover⟩ := exists_window_of_mem_stretches rfl hspan
  rw [profile_inMode] at hcover
  obtain ⟨before, after, hsplit, hwindow, hshortest⟩ := hstop.exists_split
  rw [profile_inMode] at hsplit hwindow hshortest
  set window := (body.filter criteria.profile.isComparable).extract start stop
  have hexact : (criteria.inMode .exact).BeginsAsking queries := hbegins
  obtain ⟨places, htakes, hincreasing, hfirst, hlast⟩ :=
    exists_places_of_window hexact hwindow hstop.accepted hshortest
  have hbound : ∀ place ∈ places, place < window.length := by
    intro place hplace
    exact Sequence.lt_length_of_mem_places htakes hplace
  -- The places in the window are places in the body, and with order they are taken too.
  have hbody : List.Forall₂ ((criteria.inMode .exact).TakesAt
      (body.filter criteria.profile.isComparable)) (criteria.claimants queries)
      (places.map (· + before.length)) := by
    rw [hsplit]
    exact Aligned.forall₂_takesAt_append before
      (htakes.imp fun _ _ => Aligned.takesAt_append_left after)
  have hordered := takesAt_inMode (fun query hquery file hfile => acceptsNode_inMode
    (hnodes query (mem_of_mem_claimants hquery) file (List.mem_of_mem_filter hfile))) hbody
  have hmoved := Aligned.pairwise_lt_map_add hincreasing before.length
  have hclaim : (Sequence.claim true ((criteria.inMode .includeOrdered).choosers queries)
      (body.filter criteria.profile.isComparable)).run = some (places.map (· + before.length)) :=
    claim_eq_some_of_unique hunique hordered (hmoved.imp Nat.ne_of_lt) fun _ => hmoved
  rw [stretches_of_claim (by simp [inMode]) (decides_inMode (hok .includeOrdered)) hclaim,
    profile_inMode, hsplit, coverOfPlaces?_of_window hwindow hfirst hlast hbound, hcover]
  exact List.mem_singleton_self _

/-- If each statement of a query accepts without order at most one statement of a body, then the
stretch that is reported with order is reported without. -/
theorem stretches_includeAny
    (hunique : (criteria.inMode .includeAny).Unambiguous queries body)
    (hok : ∀ mode, ∀ query ∈ queries, ∀ file ∈ body,
      ∃ found, (criteria.inMode mode).verdict query file = .ok found)
    (hnodes : ∀ query ∈ queries, ∀ file ∈ body,
      (criteria.inMode .includeOrdered).verdict query file = .ok true →
      (criteria.inMode .includeAny).verdict query file = .ok true) :
    (criteria.inMode .includeOrdered).stretches queries body ⊆
      (criteria.inMode .includeAny).stretches queries body := by
  intro span hspan
  obtain ⟨places, hplaces, hcover⟩ := exists_claim_of_mem_stretches (by simp [inMode]) hspan
  obtain ⟨htakes, hdistinct, -⟩ := takesAt_of_claim hplaces
  have hany := takesAt_inMode (fun query hquery file hfile => acceptsNode_inMode
    (hnodes query (mem_of_mem_claimants hquery) file (List.mem_of_mem_filter hfile))) htakes
  have hclaim : (Sequence.claim false ((criteria.inMode .includeAny).choosers queries)
      (body.filter criteria.profile.isComparable)).run = some places :=
    claim_eq_some_of_unique hunique hany hdistinct fun h => absurd h Bool.false_ne_true
  rw [stretches_of_claim (by simp [inMode]) (decides_inMode (hok .includeAny)) hclaim]
  exact Option.mem_toList.mpr hcover

end Criteria

end StructuralSearch
