/-!
# Node layouts

A grammar declares for each kind of node which fields it has: fields for a single child, fields for
a sequence, and whether it has children outside its fields.
-/

namespace StructuralSearch

/-- The declared fields of one kind of node, each list in the order of names. -/
structure KindLayout where
  single : List String := []
  multiple : List String := []
  hasChildren : Bool := false
  deriving DecidableEq, Repr

/-- The declared fields of every kind of node; no kind occurs twice. -/
structure Layout where
  kinds : List (String × KindLayout) := []
  deriving DecidableEq, Repr

namespace Layout

/-- The layout of a kind. -/
def kind? (layout : Layout) (kind : String) : Option KindLayout :=
  layout.kinds.lookup kind

/-- Declares a kind; an earlier declaration of the same kind is forgotten. -/
def declare (layout : Layout) (kind : String) (fields : KindLayout) : Layout :=
  ⟨layout.kinds.filter (·.1 ≠ kind) ++ [(kind, fields)]⟩

/-- The number of kinds. -/
def size (layout : Layout) : Nat :=
  layout.kinds.length

/-- A kind that has just been declared has the declared fields. -/
theorem kind?_declare_self (layout : Layout) (kind : String) (fields : KindLayout) :
    (layout.declare kind fields).kind? kind = some fields := by
  simp only [declare, kind?]
  induction layout.kinds with
  | nil => simp
  | cons entry entries ih =>
    obtain ⟨other, old⟩ := entry
    by_cases h : other = kind
    · simpa [List.filter_cons, h] using ih
    · have h' : (kind == other) = false := by
        simpa using fun e : kind = other => h e.symm
      simpa [List.filter_cons, h, List.lookup_cons, h'] using ih

end Layout

end StructuralSearch
