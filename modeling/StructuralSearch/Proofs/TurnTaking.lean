import Mathlib.Data.List.TakeWhile
import Mathlib.Tactic.Choose
import StructuralSearch.Proofs.SequenceVerdict

/-!
# Elements that choose in turn

Exact mode is meant to be the strictest and the mode without order the least strict, but claims are
made greedily.  In `f($, a)` the name `a` chooses before the wildcard does, and on `f(a, a)` it
takes the argument that the wildcard would need in order.

A sequence that is found in exact mode is found with order if its elements choose in turn
(`InTurn`): none of them accepts what one in front of it matches that chooses later, and behind a
rest wildcard they choose in their order and each accepts what those behind it accept.
`kept_iff_inTurn` shows that nothing less will do, as long as the elements can be matched at
all.

A sequence that is found with order is found without if the elements that choose first get no new
wishes from the freedom (`Undisturbed`).
-/

namespace StructuralSearch

namespace Criteria

/-- The same criteria in another mode. -/
def inMode (criteria : Criteria) (mode : Mode) : Criteria :=
  { criteria with mode := mode }

/-- The nodes in front of the first rest wildcard of a query sequence. -/
def leading (criteria : Criteria) (queries : List Node) : List Node :=
  (queries.filter criteria.profile.isComparable).takeWhile criteria.asks

/-- The nodes behind the first rest wildcard of a query sequence that ask for an element. -/
def trailing (criteria : Criteria) (queries : List Node) : List Node :=
  ((queries.filter criteria.profile.isComparable).dropWhile criteria.asks).filter criteria.asks

/-- A query node may choose before another one if it stands in front of that one. -/
abbrev MayPrecede (criteria : Criteria) (query other : Node) : Prop :=
  (criteria.strengthOf query).le (criteria.strengthOf other) = true

/-- The elements of a query sequence choose in turn when the sequence is searched among some
nodes. -/
structure InTurn (criteria : Criteria) (nodes queries : List Node) : Prop where
  /-- an element accepts nothing that one in front of it, which chooses later, accepts in exact mode -/
  rivals : (criteria.claimants queries).Pairwise fun query other =>
    criteria.MayPrecede query other ∨
      ∀ node ∈ nodes, criteria.profile.isComparable node = true →
        (criteria.inMode .exact).acceptsNode query node = true →
        (criteria.inMode .includeOrdered).acceptsNode other node = false
  /-- behind a rest wildcard each element chooses before those behind it and accepts what they do -/
  trailing : (criteria.trailing queries).Pairwise fun query other =>
    criteria.MayPrecede query other ∧
      ∀ node ∈ nodes, criteria.profile.isComparable node = true →
        (criteria.inMode .includeOrdered).acceptsNode other node = true →
        (criteria.inMode .includeOrdered).acceptsNode query node = true

/-- An element that chooses before one in front of it does not accept without order what that one
accepts with order, unless it accepts that with order too. -/
def Undisturbed (criteria : Criteria) (nodes queries : List Node) : Prop :=
  (criteria.claimants queries).Pairwise fun query other =>
    criteria.MayPrecede query other ∨
      ∀ node ∈ nodes, criteria.profile.isComparable node = true →
        (criteria.inMode .includeOrdered).acceptsNode query node = true →
        (criteria.inMode .includeAny).acceptsNode other node = true →
        (criteria.inMode .includeOrdered).acceptsNode other node = true

variable {criteria : Criteria} {nodes queries files : List Node}

@[simp] theorem profile_inMode (criteria : Criteria) (mode : Mode) :
    (criteria.inMode mode).profile = criteria.profile := rfl

@[simp] theorem claimants_inMode (criteria : Criteria) (mode : Mode) (queries : List Node) :
    (criteria.inMode mode).claimants queries = criteria.claimants queries := rfl

/-- The nodes that ask for an element stand in front of the first rest wildcard or behind it. -/
theorem claimants_eq_append (criteria : Criteria) (queries : List Node) :
    criteria.claimants queries = criteria.leading queries ++ criteria.trailing queries := by
  rw [claimants, leading, trailing]
  conv_lhs => rw [← List.takeWhile_append_dropWhile (p := criteria.asks)
    (l := queries.filter criteria.profile.isComparable)]
  rw [List.filter_append, List.filter_eq_self.mpr fun query hquery => List.mem_takeWhile_imp hquery]

/-- Elements choose in turn if none of them chooses before one in front of it and at most one is behind
a rest wildcard. -/
theorem InTurn.of_mayPrecede (h : (criteria.claimants queries).Pairwise criteria.MayPrecede)
    (hrest : (criteria.trailing queries).length ≤ 1) : criteria.InTurn nodes queries where
  rivals := h.imp Or.inl
  trailing := by
    match criteria.trailing queries, hrest with
    | [], _ => exact .nil
    | [query], _ => exact List.pairwise_singleton _ query

/-- No element is disturbed if none chooses before one in front of it. -/
theorem Undisturbed.of_mayPrecede (h : (criteria.claimants queries).Pairwise criteria.MayPrecede) :
    criteria.Undisturbed nodes queries :=
  h.imp Or.inl

/-- In all modes the elements choose in the same order. -/
theorem sooner_choosers_iff (mode : Mode) {i j : Nat} :
    Sequence.Sooner ((criteria.inMode mode).choosers queries) i j ↔
      ∃ query other, (criteria.claimants queries)[i]? = some query ∧
        (criteria.claimants queries)[j]? = some other ∧ criteria.MayPrecede query other ∧
          (i < j ∨ ¬ criteria.MayPrecede other query) := by
  simp only [Sequence.Sooner, choosers, claimants_inMode, List.getElem?_map, Option.map_eq_some_iff,
    MayPrecede, Bool.not_eq_true]
  constructor
  · rintro ⟨_, _, ⟨query, hquery, rfl⟩, ⟨other, hother, rfl⟩, h⟩
    exact ⟨query, other, hquery, hother, h⟩
  · rintro ⟨query, other, hquery, hother, h⟩
    exact ⟨_, _, ⟨query, hquery, rfl⟩, ⟨other, hother, rfl⟩, h⟩

/-- Each wanted element is a node that asks for an element. -/
theorem exists_claimant {i : Nat} {wanted : Wanted Id Node}
    (h : (criteria.choosers queries)[i]? = some wanted) :
    ∃ query, (criteria.claimants queries)[i]? = some query ∧
      wanted.strength = criteria.strengthOf query ∧
      ∀ node, (wanted.accepts node).run = criteria.acceptsNode query node := by
  rw [choosers, List.getElem?_map, Option.map_eq_some_iff] at h
  obtain ⟨query, hquery, rfl⟩ := h
  exact ⟨query, hquery, rfl, criteria.accepts_onto_decided_element query⟩

/-- The wanted elements take what the nodes take. -/
theorem forall₂_choosers {places : List Nat}
    (h : List.Forall₂ (criteria.TakesAt files) (criteria.claimants queries) places) :
    List.Forall₂ (fun wanted place => ∃ x, files[place]? = some x ∧ (wanted.accepts x).run = true)
      (criteria.choosers queries) places := by
  rw [choosers, List.forall₂_map_left_iff]
  refine h.imp fun query place htakes => ?_
  obtain ⟨x, hx, haccepts⟩ := htakes
  exact ⟨x, hx, (criteria.accepts_onto_decided_element query x).trans haccepts⟩

/-- Places that are taken in one mode are taken in another in which the nodes accept no less. -/
theorem takesAt_inMode {source target : Mode}
    (hnodes : ∀ query ∈ criteria.claimants queries, ∀ file ∈ files,
      (criteria.inMode source).acceptsNode query file = true →
      (criteria.inMode target).acceptsNode query file = true)
    {places : List Nat}
    (h : List.Forall₂ ((criteria.inMode source).TakesAt files) (criteria.claimants queries) places) :
    List.Forall₂ ((criteria.inMode target).TakesAt files) (criteria.claimants queries) places := by
  refine Sequence.forall₂_imp_of_mem h fun query hquery place _ hplace => ?_
  obtain ⟨file, hfile, haccepts⟩ := hplace
  exact ⟨file, hfile, hnodes query hquery file (List.mem_of_getElem? hfile) haccepts⟩

/-! ### From exact mode to order -/

/-- A node that chooses sooner than one in front of it may not be preceded by that one. -/
theorem not_mayPrecede_of_sooner {mode : Mode} {i j : Nat} {query other : Node} (hij : i < j)
    (h : Sequence.Sooner ((criteria.inMode mode).choosers queries) j i)
    (hquery : (criteria.claimants queries)[i]? = some query)
    (hother : (criteria.claimants queries)[j]? = some other) :
    ¬ criteria.MayPrecede query other := by
  obtain ⟨other', query', hother', hquery', -, hor⟩ := (sooner_choosers_iff mode).mp h
  rw [hquery] at hquery'
  rw [hother] at hother'
  obtain rfl := Option.some.inj hquery'
  obtain rfl := Option.some.inj hother'
  exact hor.resolve_left (Nat.lt_asymm hij)

/-- Suppose the elements take increasing places in some mode.  Where an element chooses before one
whose place is in front of its own, that one stands in front of it, may not choose before it, and
accepts what is at that place. -/
theorem exists_overtaken {source mode : Mode} {places : List Nat}
    (htakes : List.Forall₂ ((criteria.inMode source).TakesAt files) (criteria.claimants queries)
      places)
    (hincreasing : places.Pairwise (· < ·)) {i j target other : Nat} {query x : Node}
    (hsooner : Sequence.Sooner ((criteria.inMode mode).choosers queries) i j)
    (hquery : (criteria.claimants queries)[i]? = some query) (htarget : places[i]? = some target)
    (hother : places[j]? = some other) (hless : other < target) (hx : files[other]? = some x) :
    ∃ front, (criteria.claimants queries)[j]? = some front ∧ j < i ∧
      ¬ criteria.MayPrecede front query ∧
      (criteria.inMode source).acceptsNode front x = true := by
  have hji := Sequence.lt_of_pairwise_lt hincreasing hother htarget hless
  obtain ⟨hj, -⟩ := List.getElem?_eq_some_iff.mp hother
  have hj : j < (criteria.claimants queries).length := htakes.length_eq ▸ hj
  have hfront : (criteria.claimants queries)[j]? = some (criteria.claimants queries)[j] :=
    List.getElem?_eq_getElem hj
  obtain ⟨x', hx', haccepts⟩ := Sequence.rel_of_forall₂ htakes hfront hother
  rw [hx] at hx'
  obtain rfl := Option.some.inj hx'
  exact ⟨_, hfront, hji, not_mayPrecede_of_sooner hji hsooner hfront hquery, haccepts⟩

/-- **From exact mode to order.**  If the elements of a sequence choose in turn and accept with order
what they accept in exact mode, the claims with order are successful wherever the file can be cut
into pieces for the sequence in exact mode. -/
theorem exists_claim_of_inTurn (hturn : criteria.InTurn nodes queries)
    (hfiles : ∀ file ∈ files, file ∈ nodes ∧ criteria.profile.isComparable file = true)
    (hnodes : ∀ query ∈ criteria.claimants queries, ∀ file ∈ files,
      (criteria.inMode .exact).acceptsNode query file = true →
      (criteria.inMode .includeOrdered).acceptsNode query file = true)
    (haligned : Aligned (fun query => criteria.profile.elementWildcard? query = some .rest)
      (fun query file => (criteria.inMode .exact).acceptsNode query file = true)
      (queries.filter criteria.profile.isComparable) files) :
    ∃ places, (Sequence.claim true ((criteria.inMode .includeOrdered).choosers queries) files).run =
      some places := by
  -- The targets: the elements at the front take the first places in exact mode.
  obtain ⟨tail, htakes, hincreasing⟩ : ∃ tail,
      List.Forall₂ ((criteria.inMode .exact).TakesAt files) (criteria.claimants queries)
        (List.range (criteria.leading queries).length ++ tail) ∧
      (List.range (criteria.leading queries).length ++ tail).Pairwise (· < ·) := by
    rw [← List.takeWhile_append_dropWhile (p := criteria.asks)
      (l := queries.filter criteria.profile.isComparable)] at haligned
    rw [claimants_eq_append]
    exact haligned.exists_places_of_front criteria.asks_iff fun query hquery =>
      (criteria.asks_iff query).mp (List.mem_takeWhile_imp hquery)
  have hrest : ∀ wanted ∈ (criteria.inMode .includeOrdered).choosers queries,
      wanted.isRest = false := fun wanted => isRest_of_mem_choosers
  obtain ⟨places, hplaces, hle⟩ := Sequence.exists_claim_le hrest
    (forall₂_choosers (takesAt_inMode hnodes htakes))
    (hincreasing.imp Nat.ne_of_lt) (by
      intro i j target other wanted x hsooner hwanted htarget hother hless hx
      obtain ⟨query, hquery, -, haccepts⟩ := exists_claimant hwanted
      obtain ⟨front, hfront, hji, hlater, hexact⟩ :=
        exists_overtaken htakes hincreasing hsooner hquery htarget hother hless hx
      have hmem := hfiles x (List.mem_of_getElem? hx)
      rw [haccepts]
      exact (Sequence.rel_of_pairwise hturn.rivals hji hfront hquery).resolve_left hlater
        x hmem.1 hmem.2 hexact)
  have hfit := Sequence.firstFit_of_claim hrest hplaces
  have hback : places.Pairwise (· < ·) := by
    refine hfit.increasing_of_front hle ?_
    intro i j wanted other hcount hij hi hj
    obtain ⟨query, hquery, hstrength, hwanted⟩ := exists_claimant hi
    obtain ⟨later, hlater, hstrength', hother⟩ := exists_claimant hj
    rw [claimants_inMode, claimants_eq_append, List.getElem?_append_right hcount] at hquery
    rw [claimants_inMode, claimants_eq_append,
      List.getElem?_append_right (Nat.le_trans hcount (Nat.le_of_lt hij))] at hlater
    obtain ⟨hprecede, haccepts⟩ :=
      Sequence.rel_of_pairwise hturn.trailing (by omega) hquery hlater
    rw [hstrength, hstrength']
    refine ⟨hprecede, fun x hx => ?_⟩
    rw [hwanted, hother]
    exact haccepts x (hfiles x hx).1 (hfiles x hx).2
  obtain ⟨hfits, hclaims, -⟩ := Sequence.claim_eq_some_iff.mp hplaces
  exact ⟨places, Sequence.claim_eq_some_iff.mpr ⟨hfits, hclaims, fun _ => hback⟩⟩

/-! ### From order to freedom -/

/-- **From order to freedom.**  If no element of a sequence is disturbed and all accept without order
what they accept with order, the claims without order are successful wherever those with order
are, and none of them is behind the claim with order. -/
theorem exists_claim_of_undisturbed (hundisturbed : criteria.Undisturbed nodes queries)
    (hfiles : ∀ file ∈ files, file ∈ nodes ∧ criteria.profile.isComparable file = true)
    (hnodes : ∀ query ∈ criteria.claimants queries, ∀ file ∈ files,
      (criteria.inMode .includeOrdered).acceptsNode query file = true →
      (criteria.inMode .includeAny).acceptsNode query file = true)
    {places : List Nat}
    (h : (Sequence.claim true ((criteria.inMode .includeOrdered).choosers queries) files).run =
      some places) :
    ∃ found, (Sequence.claim false ((criteria.inMode .includeAny).choosers queries) files).run =
      some found ∧ List.Forall₂ (· ≤ ·) found places := by
  have hfit := Sequence.firstFit_of_claim (fun wanted => isRest_of_mem_choosers) h
  obtain ⟨htakes, hdistinct, hincreasing⟩ := takesAt_of_claim h
  rw [claimants_inMode] at htakes
  exact Sequence.exists_claim_le
    (fun wanted => isRest_of_mem_choosers) (forall₂_choosers (takesAt_inMode hnodes htakes))
    hdistinct (by
      intro i j target other wanted x hsooner hwanted htarget hother hless hx
      obtain ⟨query, hquery, -, haccepts⟩ := exists_claimant hwanted
      obtain ⟨front, hfront, hji, hlater, hfrontAccepts⟩ :=
        exists_overtaken htakes (hincreasing rfl) hsooner hquery htarget hother hless hx
      have hmem := hfiles x (List.mem_of_getElem? hx)
      rw [haccepts]
      by_contra hwants
      rw [Bool.not_eq_false] at hwants
      have hordered := (Sequence.rel_of_pairwise hundisturbed hji hfront hquery).resolve_left
        hlater x hmem.1 hmem.2 hfrontAccepts hwants
      -- With order the element would have taken this place too.
      have hsooner : Sequence.Sooner ((criteria.inMode .includeOrdered).choosers queries) i j :=
        (sooner_choosers_iff _).mpr ((sooner_choosers_iff _).mp hsooner)
      obtain ⟨k, hk, hksooner⟩ := hfit.taken (getElem?_choosers _ hquery) htarget hless hx
        ((accepts_onto_decided_element _ query x).trans hordered)
      obtain rfl := hfit.place_inj hk hother
      exact hsooner.asymm hksooner)

/-! ### Nothing less will do -/

/-- A sequence is kept among some nodes: whenever a file sequence of these nodes can be cut into pieces
for it in exact mode, the claims with order are successful. -/
def Kept (criteria : Criteria) (nodes queries : List Node) : Prop :=
  ∀ files, (∀ file ∈ files, file ∈ nodes ∧ criteria.profile.isComparable file = true) →
    Aligned (fun query => criteria.profile.elementWildcard? query = some .rest)
      (fun query file => (criteria.inMode .exact).acceptsNode query file = true)
      (queries.filter criteria.profile.isComparable) files →
    ∃ places, (Sequence.claim true ((criteria.inMode .includeOrdered).choosers queries) files).run =
      some places

section Necessity

variable (hkept : criteria.Kept nodes queries)
  (hmatch : ∀ query ∈ criteria.claimants queries, ∃ node ∈ nodes,
    criteria.profile.isComparable node = true ∧
      (criteria.inMode .exact).acceptsNode query node = true)
include hkept hmatch

omit hkept in
/-- There is a file sequence in which each element has its own place, with a given node at one of
the places. -/
theorem exists_files_with {i : Nat} {query node : Node}
    (hquery : (criteria.claimants queries)[i]? = some query) (hnode : node ∈ nodes)
    (hcomparable : criteria.profile.isComparable node = true)
    (haccepts : (criteria.inMode .exact).acceptsNode query node = true) :
    ∃ files, (∀ file ∈ files, file ∈ nodes ∧ criteria.profile.isComparable file = true) ∧
      List.Forall₂ (fun query file => (criteria.inMode .exact).acceptsNode query file = true)
        (criteria.claimants queries) files ∧ files[i]? = some node := by
  choose! pick hpick using hmatch
  obtain ⟨hi, rfl⟩ := List.getElem?_eq_some_iff.mp hquery
  refine ⟨((criteria.claimants queries).map pick).set i node, ?_, ?_, by simp [hi]⟩
  · intro file hfile
    rcases List.mem_or_eq_of_mem_set hfile with hmem | rfl
    · obtain ⟨query, hquery, rfl⟩ := List.mem_map.mp hmem
      exact ⟨(hpick query hquery).1, (hpick query hquery).2.1⟩
    · exact ⟨hnode, hcomparable⟩
  · rw [List.forall₂_iff_get]
    refine ⟨by simp, fun k hk _ => ?_⟩
    simp only [List.get_eq_getElem, List.getElem_set, List.getElem_map]
    split
    · rename_i heq
      subst heq
      exact haccepts
    · exact (hpick _ (List.getElem_mem hk)).2.2

/-- In such a file sequence the claims with order give each element its own place. -/
theorem exists_firstFit_with {i : Nat} {query node : Node}
    (hquery : (criteria.claimants queries)[i]? = some query) (hnode : node ∈ nodes)
    (hcomparable : criteria.profile.isComparable node = true)
    (haccepts : (criteria.inMode .exact).acceptsNode query node = true) :
    ∃ files places, Sequence.FirstFit ((criteria.inMode .includeOrdered).choosers queries) files
        places ∧ places.Pairwise (· < ·) ∧
      files.length = ((criteria.inMode .includeOrdered).choosers queries).length ∧
      files[i]? = some node := by
  obtain ⟨files, hfiles, htakes, hget⟩ :=
    exists_files_with hmatch hquery hnode hcomparable haccepts
  obtain ⟨places, hplaces⟩ := hkept files hfiles (Aligned.of_forall₂ criteria.asks_iff htakes)
  refine ⟨files, places, Sequence.firstFit_of_claim (fun wanted => isRest_of_mem_choosers) hplaces,
    (Sequence.claim_sound hplaces).2.2 rfl, ?_, hget⟩
  simpa [choosers] using htakes.length_eq.symm

/-- What an element accepts in exact mode it accepts with order. -/
theorem acceptsNode_of_kept {query node : Node} (hquery : query ∈ criteria.claimants queries)
    (hnode : node ∈ nodes) (hcomparable : criteria.profile.isComparable node = true)
    (haccepts : (criteria.inMode .exact).acceptsNode query node = true) :
    (criteria.inMode .includeOrdered).acceptsNode query node = true := by
  obtain ⟨i, hi⟩ := List.mem_iff_getElem?.mp hquery
  obtain ⟨files, places, hfit, hincreasing, hlength, hget⟩ :=
    exists_firstFit_with hkept hmatch hi hnode hcomparable haccepts
  have hwanted := getElem?_choosers (criteria.inMode .includeOrdered) hi
  obtain ⟨x, hx, hxaccepts⟩ := Sequence.rel_of_forall₂ hfit.accepted hwanted
    (hfit.getElem?_of_length_eq hincreasing hlength (List.getElem?_eq_some_iff.mp hwanted).1)
  rw [hget] at hx
  obtain rfl := Option.some.inj hx
  exact (accepts_onto_decided_element _ query node).symm.trans hxaccepts

/-- An element refuses what one in front of it accepts in exact mode that chooses later. -/
theorem refuses_of_kept {i j : Nat} {query other node : Node} (hij : i < j)
    (hquery : (criteria.claimants queries)[i]? = some query)
    (hother : (criteria.claimants queries)[j]? = some other)
    (hprecede : ¬ criteria.MayPrecede query other) (hnode : node ∈ nodes)
    (hcomparable : criteria.profile.isComparable node = true)
    (haccepts : (criteria.inMode .exact).acceptsNode query node = true) :
    (criteria.inMode .includeOrdered).acceptsNode other node = false := by
  obtain ⟨files, places, hfit, hincreasing, hlength, hget⟩ :=
    exists_firstFit_with hkept hmatch hquery hnode hcomparable haccepts
  have htotal := Sequence.Strength.le_total (criteria.strengthOf query) (criteria.strengthOf other)
  rw [Bool.or_eq_true] at htotal
  have hsooner : Sequence.Sooner ((criteria.inMode .includeOrdered).choosers queries) j i :=
    (sooner_choosers_iff _).mpr
      ⟨other, query, hother, hquery, htotal.resolve_left hprecede, Or.inr hprecede⟩
  rw [← accepts_onto_decided_element]
  exact hfit.refuses_of_length_eq hincreasing hlength hij hsooner (getElem?_choosers _ hother) hget

omit hkept hmatch in
/-- Files for the elements in front of the first rest wildcard and for those behind it are a cut,
with any piece between them if there is a rest wildcard. -/
theorem aligned_with_piece {mode : Mode} {front piece back : List Node}
    (hfront : List.Forall₂ (fun query file => (criteria.inMode mode).acceptsNode query file = true)
      (criteria.leading queries) front)
    (hback : List.Forall₂ (fun query file => (criteria.inMode mode).acceptsNode query file = true)
      (criteria.trailing queries) back)
    (hrest : criteria.trailing queries ≠ []) :
    Aligned (fun query => criteria.profile.elementWildcard? query = some .rest)
      (fun query file => (criteria.inMode mode).acceptsNode query file = true)
      (queries.filter criteria.profile.isComparable) (front ++ (piece ++ back)) := by
  rw [← List.takeWhile_append_dropWhile (p := criteria.asks)
    (l := queries.filter criteria.profile.isComparable)]
  refine Aligned.append (Aligned.of_forall₂ criteria.asks_iff ?_) ?_
  · rw [List.filter_eq_self.mpr fun query hquery => List.mem_takeWhile_imp hquery]
    exact hfront
  · unfold trailing at hback hrest
    cases hsplit : (queries.filter criteria.profile.isComparable).dropWhile criteria.asks with
    | nil => simp [hsplit] at hrest
    | cons query later =>
        have hquery : ¬ criteria.asks query = true := by
          have hhead := List.head?_dropWhile_not criteria.asks
            (queries.filter criteria.profile.isComparable)
          rw [hsplit] at hhead
          simpa using hhead
        rw [hsplit, List.filter_cons_of_neg hquery] at hback
        refine .rest piece ?_ (Aligned.of_forall₂ criteria.asks_iff hback)
        rwa [asks_iff, not_not] at hquery

omit hkept hmatch in
/-- Behind the elements at the front each one keeps its place. -/
theorem getElem?_claimants_of_trailing {k : Nat} {query : Node}
    (h : (criteria.trailing queries)[k]? = some query) :
    (criteria.claimants queries)[(criteria.leading queries).length + k]? = some query := by
  rw [claimants_eq_append, List.getElem?_append_right (Nat.le_add_right _ _),
    Nat.add_sub_cancel_left, h]

/-- A node for each element in front of the first rest wildcard, then one node several times, then
a node for each element behind the rest wildcard. -/
def crowd (criteria : Criteria) (queries : List Node) (pick : Node → Node) (node : Node)
    (count : Nat) : List Node :=
  (criteria.leading queries).map pick ++
    (List.replicate count node ++ (criteria.trailing queries).map pick)

section Crowd

variable {pick : Node → Node} {node : Node} {count : Nat}
  (hpick : ∀ query ∈ criteria.claimants queries, pick query ∈ nodes ∧
    criteria.profile.isComparable (pick query) = true ∧
    (criteria.inMode .exact).acceptsNode query (pick query) = true)

omit hkept hmatch

/-- At the front of a crowd are the nodes for the elements at the front. -/
theorem getElem?_crowd_front {k : Nat} (hk : k < (criteria.leading queries).length) :
    (criteria.crowd queries pick node count)[k]? = some (pick (criteria.leading queries)[k]) := by
  rw [crowd, List.getElem?_append_left (by simpa using hk)]
  simp [hk]

/-- Behind the front of a crowd comes the same node again and again. -/
theorem getElem?_crowd_middle {k : Nat} (hk : (criteria.leading queries).length ≤ k)
    (hlast : k < (criteria.leading queries).length + count) :
    (criteria.crowd queries pick node count)[k]? = some node := by
  have hmiddle : k - (criteria.leading queries).length < count := by omega
  rw [crowd, List.getElem?_append_right (by simpa using hk),
    List.getElem?_append_left (by simpa using hmiddle), List.length_map, List.getElem?_replicate,
    if_pos hmiddle]

include hpick

/-- A crowd consists of nodes from the pool. -/
theorem mem_of_mem_crowd (hnode : node ∈ nodes)
    (hcomparable : criteria.profile.isComparable node = true) :
    ∀ file ∈ criteria.crowd queries pick node count,
      file ∈ nodes ∧ criteria.profile.isComparable file = true := by
  have hpicked : ∀ query ∈ criteria.leading queries ++ criteria.trailing queries,
      pick query ∈ nodes ∧ criteria.profile.isComparable (pick query) = true := by
    intro query hquery
    rw [← claimants_eq_append] at hquery
    exact ⟨(hpick query hquery).1, (hpick query hquery).2.1⟩
  intro file hfile
  rw [crowd, List.mem_append, List.mem_append] at hfile
  rcases hfile with hmem | hmem | hmem
  · obtain ⟨query, hquery, rfl⟩ := List.mem_map.mp hmem
    exact hpicked query (List.mem_append_left _ hquery)
  · obtain rfl := List.eq_of_mem_replicate hmem
    exact ⟨hnode, hcomparable⟩
  · obtain ⟨query, hquery, rfl⟩ := List.mem_map.mp hmem
    exact hpicked query (List.mem_append_right _ hquery)

/-- In exact mode a crowd can be cut into pieces: the rest wildcard takes what is in the middle. -/
theorem aligned_crowd (hrest : criteria.trailing queries ≠ []) :
    Aligned (fun query => criteria.profile.elementWildcard? query = some .rest)
      (fun query file => (criteria.inMode .exact).acceptsNode query file = true)
      (queries.filter criteria.profile.isComparable)
      (criteria.crowd queries pick node count) := by
  have hpicks : ∀ part : List Node, part ⊆ criteria.claimants queries →
      List.Forall₂ (fun query file => (criteria.inMode .exact).acceptsNode query file = true)
        part (part.map pick) := by
    intro part hpart
    rw [List.forall₂_map_right_iff, List.forall₂_same]
    exact fun query hquery => (hpick query (hpart hquery)).2.2
  apply aligned_with_piece _ _ hrest
  · apply hpicks
    rw [claimants_eq_append]
    exact List.subset_append_left _ _
  · apply hpicks
    rw [claimants_eq_append]
    exact List.subset_append_right _ _

end Crowd

/-- In a crowd the elements at the front accept the nodes at the front, and an element that chooses
before one of these refuses what is there. -/
theorem front_of_crowd {pick : Node → Node} {node : Node} {count k : Nat}
    (hpick : ∀ query ∈ criteria.claimants queries, pick query ∈ nodes ∧
      criteria.profile.isComparable (pick query) = true ∧
      (criteria.inMode .exact).acceptsNode query (pick query) = true)
    (hk : k < (criteria.leading queries).length) :
    ∃ wanted x, ((criteria.inMode .includeOrdered).choosers queries)[k]? = some wanted ∧
      (criteria.crowd queries pick node count)[k]? = some x ∧ (wanted.accepts x).run = true ∧
      ∀ l rival, k < l → Sequence.Sooner ((criteria.inMode .includeOrdered).choosers queries) l k →
        ((criteria.inMode .includeOrdered).choosers queries)[l]? = some rival →
        (rival.accepts x).run = false := by
  have hclaimant : (criteria.claimants queries)[k]? = some (criteria.leading queries)[k] := by
    rw [claimants_eq_append, List.getElem?_append_left hk, List.getElem?_eq_getElem hk]
  obtain ⟨hnode, hcomparable, hexact⟩ := hpick _ (List.mem_of_getElem? hclaimant)
  refine ⟨_, _, getElem?_choosers _ hclaimant, getElem?_crowd_front hk, ?_, ?_⟩
  · rw [accepts_onto_decided_element]
    exact acceptsNode_of_kept hkept hmatch (List.mem_of_getElem? hclaimant) hnode hcomparable hexact
  · intro l rival hkl hsooner hrival
    obtain ⟨other, hother, -, haccepts⟩ := exists_claimant hrival
    rw [haccepts]
    exact refuses_of_kept hkept hmatch hkl hclaimant hother
      (not_mayPrecede_of_sooner hkl hsooner hclaimant hother) hnode hcomparable hexact

/-- Behind a rest wildcard an element chooses before those behind it and accepts what they do. -/
theorem trailing_of_kept {i j : Nat} {query other node : Node} (hij : i < j)
    (hquery : (criteria.trailing queries)[i]? = some query)
    (hother : (criteria.trailing queries)[j]? = some other) (hnode : node ∈ nodes)
    (hcomparable : criteria.profile.isComparable node = true)
    (haccepts : (criteria.inMode .includeOrdered).acceptsNode other node = true) :
    criteria.MayPrecede query other ∧
      (criteria.inMode .includeOrdered).acceptsNode query node = true := by
  choose! pick hpick using id hmatch
  have hrest : criteria.trailing queries ≠ [] := List.ne_nil_of_mem (List.mem_of_getElem? hquery)
  -- In front of the elements behind the rest wildcard the node comes once too often.
  obtain ⟨places, hplaces⟩ := hkept (criteria.crowd queries pick node (i + 1))
    (mem_of_mem_crowd hpick hnode hcomparable) (aligned_crowd hpick hrest)
  have hfit := Sequence.firstFit_of_claim (fun wanted => isRest_of_mem_choosers) hplaces
  have hincreasing := (Sequence.claim_sound hplaces).2.2 rfl
  have hqueryPlace := getElem?_claimants_of_trailing hquery
  have hotherPlace := getElem?_claimants_of_trailing hother
  have hmiddle : ∀ k, (criteria.leading queries).length ≤ k →
      k ≤ (criteria.leading queries).length + i →
      (criteria.crowd queries pick node (i + 1))[k]? = some node :=
    fun k hk hlast => getElem?_crowd_middle hk (Nat.lt_succ_of_le hlast)
  obtain ⟨hsooner, wanted, x, hwanted, hx, hxaccepts⟩ := hfit.sooner_of_piece hincreasing
    (fun k hk => front_of_crowd hkept hmatch hpick hk) (getElem?_choosers _ hotherPlace)
    (Nat.le_add_right _ i) (Nat.add_lt_add_left hij _)
    fun k hk hlast => ⟨node, hmiddle k hk hlast,
      (accepts_onto_decided_element _ other node).trans haccepts⟩
  constructor
  · obtain ⟨query', other', hquery', hother', hprecede, -⟩ := (sooner_choosers_iff _).mp hsooner
    rw [hqueryPlace] at hquery'
    rw [hotherPlace] at hother'
    obtain rfl := Option.some.inj hquery'
    obtain rfl := Option.some.inj hother'
    exact hprecede
  · rw [hmiddle _ (Nat.le_add_right _ _) (Nat.le_refl _)] at hx
    rw [getElem?_choosers (criteria.inMode .includeOrdered) hqueryPlace] at hwanted
    obtain rfl := Option.some.inj hx
    obtain rfl := Option.some.inj hwanted
    exact (accepts_onto_decided_element _ query node).symm.trans hxaccepts

end Necessity

/-- **What keeps the order of the modes.**  If each element of a query sequence accepts some node in
exact mode, then these are the same: that the claims with order are successful wherever the sequence
is found in exact mode among these nodes, and that the elements choose in turn and accept with order
what they accept in exact mode. -/
theorem kept_iff_inTurn
    (hmatch : ∀ query ∈ criteria.claimants queries, ∃ node ∈ nodes,
      criteria.profile.isComparable node = true ∧
        (criteria.inMode .exact).acceptsNode query node = true) :
    criteria.Kept nodes queries ↔
      criteria.InTurn nodes queries ∧ ∀ query ∈ criteria.claimants queries, ∀ node ∈ nodes,
        criteria.profile.isComparable node = true →
        (criteria.inMode .exact).acceptsNode query node = true →
        (criteria.inMode .includeOrdered).acceptsNode query node = true := by
  constructor
  · intro hkept
    refine ⟨⟨?_, ?_⟩, fun query hquery node => acceptsNode_of_kept hkept hmatch hquery⟩
    · rw [List.pairwise_iff_getElem]
      intro i j hi hj hij
      by_cases hprecede : criteria.MayPrecede (criteria.claimants queries)[i]
          (criteria.claimants queries)[j]
      · exact Or.inl hprecede
      · exact Or.inr fun node hnode hcomparable haccepts => refuses_of_kept hkept hmatch hij
          (List.getElem?_eq_getElem hi) (List.getElem?_eq_getElem hj) hprecede hnode hcomparable
          haccepts
    · rw [List.pairwise_iff_getElem]
      intro i j hi hj hij
      have hboth := fun (node : Node) (hnode : node ∈ nodes) =>
        trailing_of_kept hkept hmatch hij
        (List.getElem?_eq_getElem hi) (List.getElem?_eq_getElem hj) hnode
      refine ⟨?_, fun node hnode hcomparable haccepts =>
        (hboth node hnode hcomparable haccepts).2⟩
      have hmem : (criteria.trailing queries)[j] ∈ criteria.claimants queries := by
        rw [claimants_eq_append]
        exact List.mem_append_right _ (List.getElem_mem hj)
      obtain ⟨node, hnode, hcomparable, haccepts⟩ := hmatch _ hmem
      exact (hboth node hnode hcomparable
        (acceptsNode_of_kept hkept hmatch hmem hnode hcomparable haccepts)).1
  · rintro ⟨hturn, hnodes⟩ files hfiles haligned
    exact exists_claim_of_inTurn hturn hfiles (fun query hquery file hfile =>
      hnodes query hquery file (hfiles file hfile).1 (hfiles file hfile).2) haligned

end Criteria

end StructuralSearch
