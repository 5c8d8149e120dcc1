import StructuralSearch.Toml.Basic

/-!
# What cannot be read

Each step of reading takes the rest of a document and returns what it read with what is left.  A
step that fails says where: at the start of a rest.  Some failures are final; after the others
something else may still be tried at the place where the step began.
-/

namespace StructuralSearch.Toml

/-- A failure to read something. -/
structure Misread where
  /-- what is left of the document where the problem is -/
  rest : List Char
  problem : Problem
  /-- whether no other reading is to be tried -/
  isFinal : Bool

namespace Misread

/-- The failure without another reading to try. -/
def final (misread : Misread) : Misread :=
  { misread with isFinal := true }

/-- The result of a step, after which no other reading is tried. -/
def committed {α : Type} (result : Except Misread α) : Except Misread α :=
  result.mapError final

/-- The result of a step, or nothing where another reading may be tried. -/
def attempt {α : Type} : Except Misread α → Except Misread (Option α)
  | .ok found => .ok (some found)
  | .error misread => if misread.isFinal then .error misread else .ok none

/-- A step that is committed to does not leave anything to try. -/
theorem attempt_committed_ne_none {α : Type} (result : Except Misread α) :
    attempt (committed result) ≠ .ok none := by
  cases result <;> nofun

end Misread

/-- Something malformed at the start of a rest. -/
def malformed (rest : List Char) (name : Option String) (expected : List String) : Misread :=
  ⟨rest, .malformed name expected, false⟩

end StructuralSearch.Toml
