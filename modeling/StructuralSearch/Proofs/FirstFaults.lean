import StructuralSearch.Proofs.SpanBounds
import StructuralSearch.Proofs.SureSearch

/-!
# The first fault of a parse tree

`ParseTree.firstFault?` enters a subtree only if the subtree announces a fault.  If the announcements
are exact (`AnnouncesFaults`), nothing is lost by that: a subtree that is left out holds no fault, so
the search finds what a search through all nodes finds, each node before its children
(`firstFault?_eq_find?`).

A text is parsed exactly if its tree holds no fault, and otherwise the first fault is reported
(`Grammar.parse_reports_first_fault`).
-/

namespace StructuralSearch

namespace ParseTree

/-- A node that marks what is wrong with a text. -/
def isFault (tree : ParseTree) : Bool :=
  tree.isError || tree.isMissing

/-- A tree and all trees below it announce a fault exactly if they hold one. -/
def AnnouncesFaults (tree : ParseTree) : Prop :=
  ∀ part ∈ tree.parts, part.hasError = part.parts.any isFault

instance decidableAnnouncesFaults (tree : ParseTree) : Decidable tree.AnnouncesFaults :=
  inferInstanceAs (Decidable (∀ part ∈ tree.parts, part.hasError = part.parts.any isFault))

/-- What is found first depends on what is found in each element. -/
theorem findSome?_congr {α β : Type} {f g : α → Option β} {xs : List α}
    (h : ∀ x ∈ xs, f x = g x) : xs.findSome? f = xs.findSome? g := by
  induction xs with
  | nil => rfl
  | cons x xs ih =>
      obtain ⟨hx, hlater⟩ := List.forall_mem_cons.mp h
      rw [List.findSome?_cons, List.findSome?_cons, hx, ih hlater]

/-- In a list the first tree with a fault is looked for. -/
theorem firstFaultIn?_eq_findSome? (trees : List ParseTree) :
    firstFaultIn? trees = trees.findSome? firstFault? := by
  induction trees with
  | nil => rfl
  | cons tree trees ih =>
      rw [firstFaultIn?, List.findSome?_cons, ih]
      cases firstFault? tree <;> rfl

/-- A fault is found at once, and otherwise below, if there is one announced. -/
theorem firstFault?_eq (tree : ParseTree) :
    tree.firstFault? =
      if tree.isFault then some tree
      else if tree.hasError then tree.children.findSome? firstFault? else none := by
  obtain ⟨kind, named, extra, isError, isMissing, hasError, field, start, stop, children⟩ := tree
  rw [firstFault?, firstFaultIn?_eq_findSome?]
  rfl

/-- What is below a tree announces its faults if the tree does. -/
theorem AnnouncesFaults.child {tree child : ParseTree} (h : tree.AnnouncesFaults)
    (hchild : child ∈ tree.children) : child.AnnouncesFaults :=
  fun _ hpart => h _ (mem_parts_iff.mpr (Or.inr ⟨child, hchild, hpart⟩))

/-- A tree that announces no fault holds none. -/
theorem AnnouncesFaults.find?_eq_none {tree : ParseTree} (h : tree.AnnouncesFaults)
    (hnone : tree.hasError = false) : tree.parts.find? isFault = none := by
  have hany := h tree tree.mem_parts_self
  rw [hnone] at hany
  exact List.find?_eq_none.mpr (List.any_eq_false.mp hany.symm)

/-- **Nothing is lost.**  If faults are announced where they are, the search finds the first one of all
nodes: below a node, the child in which it looks first is the first one with a fault. -/
theorem firstFault?_eq_find? {tree : ParseTree} (h : tree.AnnouncesFaults) :
    tree.firstFault? = tree.parts.find? isFault := by
  induction tree using induction_on_children with
  | step tree ih =>
      rw [firstFault?_eq]
      cases hself : tree.isFault with
      | true => rw [if_pos rfl, parts_eq, List.find?_cons_of_pos hself]
      | false =>
          rw [if_neg Bool.false_ne_true]
          cases hbelow : tree.hasError with
          | false => rw [if_neg Bool.false_ne_true, h.find?_eq_none hbelow]
          | true =>
              rw [if_pos rfl, parts_eq, List.find?_cons_of_neg (by simp [hself]),
                List.find?_flatMap]
              exact findSome?_congr fun child hchild => ih child hchild (h.child hchild)

end ParseTree

namespace Grammar

open ParseTree

variable {grammar : Grammar} {source : String} {tree : ParseTree}

/-- A text without a fault gives a node. -/
theorem parse_of_firstFault?_eq_none (hparse : grammar.parser source = some tree)
    (hfault : tree.firstFault? = none) :
    grammar.parse source = .ok ((grammar.builder source).build tree) := by
  simp only [parse, hparse, hfault]

/-- A text with a fault gives the place of the first one. -/
theorem parse_of_firstFault?_eq_some (hparse : grammar.parser source = some tree)
    {fault : ParseTree} (hfault : tree.firstFault? = some fault) :
    grammar.parse source =
      .error (.parse (clampPosition (fault.start.row + 1)) (clampPosition (fault.start.column + 1))
        fault.faultMessage) := by
  simp only [parse, hparse, hfault]
  rfl

/-- **The first fault is reported.**  In a tree that announces its faults the first error node or
missing node is found, each node looked at before its children.  A text with such a tree gives a built
node exactly if there is no such node, and otherwise an error with the one-based place of the first
one. -/
theorem parse_reports_first_fault (hparse : grammar.parser source = some tree)
    (hannounces : tree.AnnouncesFaults) :
    tree.firstFault? = tree.parts.find? isFault ∧
    (tree.firstFault? = none ↔ ∀ part ∈ tree.parts, part.isFault = false) ∧
    (∀ node, grammar.parse source = .ok node ↔
      (∀ part ∈ tree.parts, part.isFault = false) ∧
        node = (grammar.builder source).build tree) ∧
    (∀ front fault back, tree.parts = front ++ fault :: back →
      (∀ part ∈ front, part.isFault = false) → fault.isFault = true →
      grammar.parse source =
        .error (.parse (clampPosition (fault.start.row + 1))
          (clampPosition (fault.start.column + 1)) fault.faultMessage)) := by
  have hfirst := firstFault?_eq_find? hannounces
  have hnone : tree.firstFault? = none ↔ ∀ part ∈ tree.parts, part.isFault = false := by
    rw [hfirst, List.find?_eq_none]
    simp only [Bool.not_eq_true]
  refine ⟨hfirst, hnone, fun node => ?_, fun front fault back hparts hfront hfault => ?_⟩
  · rw [← hnone]
    cases hfound : tree.firstFault? with
    | none =>
        rw [parse_of_firstFault?_eq_none hparse hfound, Except.ok.injEq]
        exact ⟨fun h => ⟨rfl, h.symm⟩, fun h => h.2.symm⟩
    | some fault =>
        rw [parse_of_firstFault?_eq_some hparse hfound]
        constructor
        · intro h
          cases h
        · intro h
          cases h.1
  · refine parse_of_firstFault?_eq_some hparse (hfirst.trans ?_)
    rw [List.find?_eq_some_iff_append]
    refine ⟨hfault, front, back, hparts, fun part hpart => ?_⟩
    rw [hfront part hpart, Bool.not_false]

end Grammar

namespace Calls

/-- A bracket that is missing at the end of `f(a⏎,,(`. -/
def missingBracket : ParseTree where
  kind := ")"
  named := false
  extra := false
  isError := false
  isMissing := true
  hasError := true
  field := none
  start := ⟨7, 1, 3⟩
  stop := ⟨7, 1, 3⟩
  children := []

/-- What could not be read in `f(a⏎,,(`. -/
def unreadCommas : ParseTree where
  kind := "ERROR"
  named := true
  extra := true
  isError := true
  isMissing := false
  hasError := true
  field := none
  start := ⟨5, 1, 1⟩
  stop := ⟨7, 1, 3⟩
  children := [missingBracket]

/-- The tree of `f(a⏎,,(`: behind the argument stands an error with a missing bracket in it, and another
bracket is missing behind that. -/
def brokenProgram : ParseTree :=
  let broken := { call 0 7 [name 2 3, unreadCommas, missingBracket] with
    field := none, hasError := true }
  { tree "program" none 0 7 [broken] with hasError := true }

/-- The language of calls with a parser that knows this tree. -/
def brokenGrammar : Grammar where
  profile := profile
  layout := layout
  parser := fun _ => some brokenProgram

end Calls

/-- The text `f(a⏎,,(` is not parsed, and the error is the first of the three faults in its tree. -/
theorem Calls.broken_call_reported :
    Calls.brokenProgram.AnnouncesFaults ∧
    (Calls.brokenProgram.parts.filter ParseTree.isFault).length = 3 ∧
    (Calls.brokenProgram.firstFault?.map (·.kind)) = some "ERROR" ∧
    Calls.brokenGrammar.parse "f(a\n,,(" = .error (.parse 2 2 "Parse error at 2:2-2:4") := by
  have hparse : Calls.brokenGrammar.parser "f(a\n,,(" = some Calls.brokenProgram := rfl
  have hannounces : Calls.brokenProgram.AnnouncesFaults := by decide +kernel
  obtain ⟨hfirst, -, -, hreported⟩ :=
    Grammar.parse_reports_first_fault hparse hannounces
  refine ⟨hannounces, by decide +kernel, ?_, ?_⟩
  · rw [hfirst]
    decide +kernel
  · have hparts : Calls.brokenProgram.parts =
        Calls.brokenProgram.parts.take 4 ++
          Calls.unreadCommas :: Calls.brokenProgram.parts.drop 5 := rfl
    refine (hreported _ _ _ hparts ?_ ?_).trans ?_
    · decide +kernel
    · decide
    · exact congrArg Except.error (by decide +kernel)

end StructuralSearch
