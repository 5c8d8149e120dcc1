import StructuralSearch.Matching.Sequence

/-!
# Sequence searches in two monads

The searches of `Sequence` do nothing with their monad but to chain the decisions of the wanted
elements.  So a search in one monad runs alongside the same search in another one: a relation
between computations that is kept by chaining (`RunsAlongside`) passes from the decisions to the
whole search.

The relation that is used most compares decisions that may fail with bare decisions
(`runsAlongside_decided`).  A search that does not fail then finds what the search with the bare
decisions finds, and a search whose decisions never fail does not fail (`glob_eq_ok`,
`claim_eq_ok`).
-/

namespace StructuralSearch

/-- A relation between computations of two monads that is kept when computations are chained. -/
structure RunsAlongside {m n : Type → Type} [Monad m] [Monad n]
    (R : (α : Type) → m α → n α → Prop) : Prop where
  /-- computations that do nothing are related -/
  pure {α : Type} (a : α) : R α (pure a) (pure a)
  /-- chaining keeps the relation -/
  bind {α β : Type} {x : m α} {y : n α} {f : α → m β} {g : α → n β} (first : R α x y)
    (next : ∀ a, R β (f a) (g a)) : R β (x >>= f) (y >>= g)

/-- The same wanted element with its decisions made in another monad. -/
def Wanted.onto {m n : Type → Type} {α : Type} (h : m Bool → n Bool) (wanted : Wanted m α) :
    Wanted n α where
  wildcard := wanted.wildcard
  strength := wanted.strength
  accepts := fun x => h (wanted.accepts x)

namespace Sequence

section Onto

variable {m n : Type → Type} {α : Type} {h : m Bool → n Bool}

@[simp] theorem isRest_onto (wanted : Wanted m α) : (wanted.onto h).isRest = wanted.isRest := rfl

/-- The elements that make a claim are elements of the query. -/
theorem mem_of_mem_claimOrder {query : List (Wanted m α)} {entry : Nat × Wanted m α}
    (hentry : entry ∈ claimOrder query) : entry.2 ∈ query := by
  simp only [claimOrder, List.mem_mergeSort, indexed, List.mem_filter, List.mem_map] at hentry
  obtain ⟨⟨⟨wanted, index⟩, hmem, rfl⟩, -⟩ := hentry
  exact List.fst_mem_of_mem_zipIdx hmem

/-- The order in which elements choose that were made from others. -/
theorem claimOrder_map {β : Type} (f : β → Wanted m α) (items : List β) :
    claimOrder (items.map f) =
      (((indexed items).filter fun entry => !(f entry.2).isRest).mergeSort
        fun a b => (f a.2).strength.le (f b.2).strength).map fun entry => (entry.1, f entry.2) := by
  rw [List.map_mergeSort (s := fun a b => a.2.strength.le b.2.strength) (by intros; rfl), claimOrder]
  congr 1
  simp [indexed, List.zipIdx_map, List.filter_map, Function.comp_def]

/-- The order in which elements choose does not depend on how they decide. -/
theorem claimOrder_map_onto (query : List (Wanted m α)) :
    claimOrder (query.map (Wanted.onto h)) =
      (claimOrder query).map fun entry => (entry.1, entry.2.onto h) :=
  claimOrder_map (Wanted.onto h) query

end Onto

section Alongside

variable {m n : Type → Type} [Monad m] [Monad n] {α : Type}
variable {R : (α : Type) → m α → n α → Prop} {h : m Bool → n Bool}

theorem globFrom_rest {wanted : Wanted m α} (hrest : wanted.isRest = true)
    (query : List (Wanted m α)) (file : List α) :
    globFrom (wanted :: query) file = someSuffix (globFrom query) file := by
  simp [globFrom, hrest]

theorem globFrom_nil {wanted : Wanted m α} (hrest : wanted.isRest = false)
    (query : List (Wanted m α)) : globFrom (wanted :: query) [] = pure false := by
  simp [globFrom, hrest]

theorem globFrom_cons {wanted : Wanted m α} (hrest : wanted.isRest = false)
    (query : List (Wanted m α)) (x : α) (xs : List α) :
    globFrom (wanted :: query) (x :: xs) =
      wanted.accepts x >>= fun accepted => if accepted then globFrom query xs else pure false := by
  simp [globFrom, hrest]

theorem someSuffix_alongside (hR : RunsAlongside R) {test : List α → m Bool}
    {test' : List α → n Bool} (htest : ∀ part, R Bool (test part) (test' part))
    (file : List α) : R Bool (someSuffix test file) (someSuffix test' file) := by
  induction file with
  | nil => exact htest []
  | cons x xs ih =>
      refine hR.bind (htest _) fun found => ?_
      cases found with
      | true => exact hR.pure true
      | false => exact ih

theorem globFrom_alongside (hR : RunsAlongside R) {query : List (Wanted m α)}
    (hquery : ∀ wanted ∈ query, ∀ x, R Bool (wanted.accepts x) (h (wanted.accepts x)))
    (file : List α) :
    R Bool (globFrom query file) (globFrom (query.map (Wanted.onto h)) file) := by
  induction query generalizing file with
  | nil => exact hR.pure _
  | cons wanted query ih =>
      have hlater := ih fun other hother => hquery other (List.mem_cons_of_mem _ hother)
      rw [List.map_cons]
      cases hrest : wanted.isRest with
      | true =>
          rw [globFrom_rest hrest, globFrom_rest (by rwa [isRest_onto])]
          exact someSuffix_alongside hR hlater file
      | false =>
          cases file with
          | nil =>
              rw [globFrom_nil hrest, globFrom_nil (by rwa [isRest_onto])]
              exact hR.pure false
          | cons x xs =>
              rw [globFrom_cons hrest, globFrom_cons (by rwa [isRest_onto])]
              refine hR.bind (hquery wanted List.mem_cons_self x) fun found => ?_
              cases found with
              | true => exact hlater xs
              | false => exact hR.pure false

/-- Globbing runs alongside globbing. -/
theorem glob_alongside (hR : RunsAlongside R) {query : List (Wanted m α)}
    (hquery : ∀ wanted ∈ query, ∀ x, R Bool (wanted.accepts x) (h (wanted.accepts x)))
    (file : List α) : R Bool (glob query file) (glob (query.map (Wanted.onto h)) file) := by
  simp only [glob, List.any_map, List.length_map, Function.comp_def, isRest_onto]
  split
  · exact hR.pure false
  · exact globFrom_alongside hR hquery file

theorem takeFirst_alongside (hR : RunsAlongside R) {accepts : α → m Bool} {accepts' : α → n Bool}
    (haccepts : ∀ x, R Bool (accepts x) (accepts' x)) (free : List (Nat × α)) :
    R _ (takeFirst accepts free) (takeFirst accepts' free) := by
  induction free with
  | nil => exact hR.pure none
  | cons entry free ih =>
      obtain ⟨index, x⟩ := entry
      refine hR.bind (haccepts x) fun found => ?_
      cases found with
      | true => exact hR.pure _
      | false =>
          refine hR.bind ih fun later => ?_
          cases later with
          | none => exact hR.pure none
          | some claimed => exact hR.pure _

theorem claimEach_alongside (hR : RunsAlongside R) {pending : List (Nat × Wanted m α)}
    (hpending : ∀ entry ∈ pending, ∀ x, R Bool (entry.2.accepts x) (h (entry.2.accepts x)))
    (free : List (Nat × α)) :
    R _ (claimEach pending free)
      (claimEach (pending.map fun entry => (entry.1, entry.2.onto h)) free) := by
  induction pending generalizing free with
  | nil => exact hR.pure _
  | cons entry pending ih =>
      have hrest := ih fun other hother => hpending other (List.mem_cons_of_mem _ hother)
      refine hR.bind (takeFirst_alongside hR (hpending entry List.mem_cons_self) free)
        fun taken => ?_
      cases taken with
      | none => exact hR.pure none
      | some claimed =>
          refine hR.bind (hrest claimed.2) fun claims => ?_
          cases claims with
          | none => exact hR.pure none
          | some claims => exact hR.pure _

/-- Claiming runs alongside claiming. -/
theorem claim_alongside (hR : RunsAlongside R) (ordered : Bool) {query : List (Wanted m α)}
    (hquery : ∀ wanted ∈ query, ∀ x, R Bool (wanted.accepts x) (h (wanted.accepts x)))
    (file : List α) :
    R _ (claim ordered query file) (claim ordered (query.map (Wanted.onto h)) file) := by
  simp only [claim, claimOrder_map_onto, List.length_map]
  split
  · exact hR.pure none
  · refine hR.bind (claimEach_alongside hR ?_ _) fun claims => ?_
    · intro entry hentry
      exact hquery entry.2 (mem_of_mem_claimOrder hentry)
    · cases claims with
      | none => exact hR.pure none
      | some claims => exact hR.pure _

theorem shortestStretch_alongside (hR : RunsAlongside R) {test : List α → m Bool}
    {test' : List α → n Bool} (htest : ∀ part, R Bool (test part) (test' part))
    (taken file : List α) :
    R _ (shortestStretch test taken file) (shortestStretch test' taken file) := by
  induction file generalizing taken with
  | nil => exact hR.pure none
  | cons x rest ih =>
      refine hR.bind (htest _) fun found => ?_
      cases found with
      | true => exact hR.pure _
      | false => exact ih _

/-- The search for windows runs alongside the search for windows. -/
theorem shortestWindows_alongside (hR : RunsAlongside R) {test : List α → m Bool}
    {test' : List α → n Bool} (htest : ∀ part, R Bool (test part) (test' part))
    (file : List α) : R _ (shortestWindows test file) (shortestWindows test' file) := by
  induction file with
  | nil => exact hR.pure _
  | cons x rest ih =>
      exact hR.bind (shortestStretch_alongside hR htest [] (x :: rest)) fun here =>
        hR.bind ih fun later => hR.pure _

end Alongside

/-! ### Decisions that may fail -/

section Failing

variable {ε α : Type}

/-- The decision that was made, and a refusal where it failed. -/
def decided (decision : Except ε Bool) : Id Bool :=
  match decision with
  | .ok accepted => pure accepted
  | .error _ => pure false

/-- What does not fail gives the result that it gives without failures. -/
theorem runsAlongside_decided :
    RunsAlongside fun α (x : Except ε α) (y : Id α) => ∀ a, x = .ok a → a = y.run where
  pure a b h := (Except.ok.inj h).symm
  bind {α β x y f g} first next b h := by
    obtain ⟨a, hx, hf⟩ : ∃ a, x = .ok a ∧ f a = .ok b := by
      cases x with
      | error e => cases h
      | ok a => exact ⟨a, rfl, h⟩
    obtain rfl := first a hx
    exact next _ b hf

/-- A decision that was made is the one with failures put aside. -/
theorem eq_decided_of_ok (decision : Except ε Bool) (accepted : Bool)
    (h : decision = .ok accepted) : accepted = (decided decision).run := by
  subst h
  rfl

/-- The wanted elements that are asked never fail to decide on the elements of the file; a rest
wildcard is not asked. -/
def Decides (query : List (Wanted (Except ε) α)) (file : List α) : Prop :=
  ∀ wanted ∈ query, wanted.isRest = false →
    ∀ x ∈ file, ∃ accepted, wanted.accepts x = .ok accepted

theorem someSuffix_ok {test : List α → Except ε Bool} {file : List α}
    (htest : ∀ part, part ⊆ file → ∃ found, test part = .ok found) :
    ∃ found, someSuffix test file = .ok found := by
  induction file with
  | nil => exact htest [] (List.Subset.refl _)
  | cons x xs ih =>
      obtain ⟨found, hfound⟩ := htest (x :: xs) (List.Subset.refl _)
      obtain ⟨later, hlater⟩ := ih fun part hpart => htest part (List.subset_cons_of_subset _ hpart)
      cases found with
      | true => exact ⟨true, by rw [someSuffix, hfound]; rfl⟩
      | false => exact ⟨later, by rw [someSuffix, hfound]; exact hlater⟩

theorem globFrom_ok {query : List (Wanted (Except ε) α)} {file : List α}
    (h : Decides query file) : ∃ found, globFrom query file = .ok found := by
  induction query generalizing file with
  | nil => exact ⟨_, rfl⟩
  | cons wanted query ih =>
      have hlater : ∀ part, part ⊆ file → ∃ found, globFrom query part = .ok found :=
        fun part hpart => ih fun other hother hasked x hx =>
          h other (List.mem_cons_of_mem _ hother) hasked x (hpart hx)
      cases hrest : wanted.isRest with
      | true =>
          rw [globFrom_rest hrest]
          exact someSuffix_ok hlater
      | false =>
          cases file with
          | nil => exact ⟨false, globFrom_nil hrest query⟩
          | cons x xs =>
              obtain ⟨accepted, haccepted⟩ :=
                h wanted List.mem_cons_self hrest x List.mem_cons_self
              rw [globFrom_cons hrest, haccepted]
              cases accepted with
              | true => exact hlater xs (List.subset_cons_self x xs)
              | false => exact ⟨false, rfl⟩

/-- **Globbing with sure decisions.**  If the decisions do not fail, globbing does not fail and
gives the result of the bare decisions. -/
theorem glob_eq_ok {query : List (Wanted (Except ε) α)} {file : List α} (h : Decides query file) :
    glob query file = .ok (glob (query.map (Wanted.onto decided)) file).run := by
  obtain ⟨found, hfound⟩ : ∃ found, glob query file = .ok found := by
    unfold glob
    split
    · exact ⟨false, rfl⟩
    · exact globFrom_ok h
  rw [hfound]
  exact congrArg _ (glob_alongside runsAlongside_decided
    (fun wanted _ x => eq_decided_of_ok _) file found hfound)

theorem takeFirst_ok {accepts : α → Except ε Bool} {free : List (Nat × α)}
    (h : ∀ entry ∈ free, ∃ accepted, accepts entry.2 = .ok accepted) :
    ∃ taken, takeFirst accepts free = .ok taken ∧
      ∀ index left, taken = some (index, left) → left ⊆ free := by
  induction free with
  | nil => exact ⟨none, rfl, by simp⟩
  | cons entry free ih =>
      obtain ⟨index, x⟩ := entry
      obtain ⟨accepted, haccepted⟩ := h (index, x) List.mem_cons_self
      cases accepted with
      | true =>
          refine ⟨some (index, free), by rw [takeFirst, haccepted]; rfl, ?_⟩
          intro _ _ heq
          cases heq
          exact List.subset_cons_self _ _
      | false =>
          obtain ⟨later, hlater, hleft⟩ := ih fun other hother =>
            h other (List.mem_cons_of_mem _ hother)
          cases later with
          | none => exact ⟨none, by rw [takeFirst, haccepted]; simp only [hlater]; rfl, by simp⟩
          | some claimed =>
              refine ⟨some (claimed.1, (index, x) :: claimed.2),
                by rw [takeFirst, haccepted]; simp only [hlater]; rfl, ?_⟩
              intro _ _ heq
              cases heq
              exact List.cons_subset_cons _ (hleft claimed.1 claimed.2 rfl)

theorem claimEach_ok (pending : List (Nat × Wanted (Except ε) α)) (free : List (Nat × α))
    (h : ∀ entry ∈ pending, ∀ x ∈ free, ∃ accepted, entry.2.accepts x.2 = .ok accepted) :
    ∃ claims, claimEach pending free = .ok claims := by
  induction pending generalizing free with
  | nil => exact ⟨_, rfl⟩
  | cons entry pending ih =>
      obtain ⟨taken, htaken, hleft⟩ := takeFirst_ok (h entry List.mem_cons_self)
      cases taken with
      | none => exact ⟨none, by rw [claimEach, htaken]; rfl⟩
      | some claimed =>
          obtain ⟨claims, hclaims⟩ := ih claimed.2 fun other hother x hx =>
            h other (List.mem_cons_of_mem _ hother) x (hleft claimed.1 claimed.2 rfl hx)
          refine ⟨claims.map ((entry.1, claimed.1) :: ·), ?_⟩
          rw [claimEach, htaken]
          cases claims with
          | none => simp only [bind, Except.bind, hclaims]; rfl
          | some claims => simp only [bind, Except.bind, hclaims]; rfl

/-- The numbered elements are the elements. -/
theorem snd_mem_of_mem_indexed {file : List α} {entry : Nat × α} (h : entry ∈ indexed file) :
    entry.2 ∈ file := by
  obtain ⟨⟨x, index⟩, hmem, rfl⟩ := List.mem_map.mp h
  exact List.fst_mem_of_mem_zipIdx hmem

/-- Claiming does not fail if the decisions do not. -/
theorem claim_ok (ordered : Bool) {query : List (Wanted (Except ε) α)} {file : List α}
    (h : Decides query file) : ∃ claims, claim ordered query file = .ok claims := by
  have hpending : ∀ entry ∈ claimOrder query, ∀ x ∈ indexed file,
      ∃ accepted, entry.2.accepts x.2 = .ok accepted := by
    intro entry hentry x hx
    have hmem := List.mem_filter.mp (List.mem_mergeSort.mp hentry)
    exact h entry.2 (snd_mem_of_mem_indexed hmem.1) (by simpa using hmem.2) x.2
      (snd_mem_of_mem_indexed hx)
  obtain ⟨claims, hclaims⟩ := claimEach_ok (claimOrder query) (indexed file) hpending
  simp only [claim]
  split
  · exact ⟨none, rfl⟩
  · rw [hclaims]
    cases claims with
    | none => exact ⟨none, rfl⟩
    | some claims => exact ⟨_, rfl⟩

/-- **Claiming with sure decisions.**  If the decisions do not fail, claiming does not fail and
gives the result of the bare decisions. -/
theorem claim_eq_ok (ordered : Bool) {query : List (Wanted (Except ε) α)} {file : List α}
    (h : Decides query file) :
    claim ordered query file =
      .ok (claim ordered (query.map (Wanted.onto decided)) file).run := by
  obtain ⟨places, hplaces⟩ := claim_ok ordered h
  rw [hplaces]
  exact congrArg _ (claim_alongside runsAlongside_decided ordered
    (fun wanted _ x => eq_decided_of_ok _) file places hplaces)

theorem shortestStretch_ok {test : List α → Except ε Bool} (taken file : List α)
    (htest : ∀ part, part ⊆ taken ++ file → ∃ found, test part = .ok found) :
    ∃ stretch, shortestStretch test taken file = .ok stretch := by
  induction file generalizing taken with
  | nil => exact ⟨none, rfl⟩
  | cons x rest ih =>
      obtain ⟨found, hfound⟩ := htest (taken ++ [x]) (by simp)
      cases found with
      | true => exact ⟨some (taken ++ [x]), by simp only [shortestStretch, hfound]; rfl⟩
      | false =>
          obtain ⟨stretch, hstretch⟩ := ih (taken ++ [x]) fun part hpart =>
            htest part (by simpa using hpart)
          exact ⟨stretch, by simp only [shortestStretch, hfound]; exact hstretch⟩

/-- The search for windows does not fail if the test fails on no part of the file. -/
theorem shortestWindows_ok {test : List α → Except ε Bool} (file : List α)
    (htest : ∀ part, part ⊆ file → ∃ found, test part = .ok found) :
    ∃ windows, shortestWindows test file = .ok windows := by
  induction file with
  | nil => exact ⟨[], rfl⟩
  | cons x rest ih =>
      obtain ⟨here, hhere⟩ := shortestStretch_ok [] (x :: rest) htest
      obtain ⟨later, hlater⟩ := ih fun part hpart => htest part (List.subset_cons_of_subset _ hpart)
      exact ⟨here.toList ++ later, by simp only [shortestWindows, hhere, hlater]; rfl⟩

end Failing

end Sequence

end StructuralSearch
