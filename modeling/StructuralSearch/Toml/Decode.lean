import StructuralSearch.Toml.Basic

/-!
# Values from TOML

What a program wants from a value: a text, a truth value, a count, or one of some names.  A name
may also be written as a table whose only key it is and whose value is empty.  A fault in a value
without a range is one in the range that is given beside it.
-/

namespace StructuralSearch.Toml.Value

variable (range : Range)

/-- A value in place of another one that was expected. -/
def mismatch (value : Value) (expected : String) : Fault :=
  ⟨value.range?.getD range, .wrongType value.unexpected expected⟩

/-- The text that is wanted. -/
def toText : Value → Except Fault String
  | string _ text => .ok text
  | value => .error (value.mismatch range "a string")

/-- The truth value that is wanted. -/
def toBool : Value → Except Fault Bool
  | boolean _ value => .ok value
  | value => .error (value.mismatch range "a boolean")

/-- The count that is wanted. -/
def toCount : Value → Except Fault Nat
  | integer range value =>
    if 0 ≤ value then .ok value.toNat
    else .error ⟨range, .wrongValue (.integer value) "usize"⟩
  | value => .error (value.mismatch range "usize")

/-- Checks that nothing is in a value. -/
def checkEmpty (value : Value) : Except Fault Unit :=
  let range := value.range?.getD range
  match value with
  | array _ items => if items.isEmpty then .ok () else .error ⟨range, .notEmpty "table"⟩
  | tables _ items => if items.isEmpty then .ok () else .error ⟨range, .notEmpty "array"⟩
  | table _ _ entries => if entries.isEmpty then .ok () else .error ⟨range, .notEmpty "table"⟩
  | value => .error ⟨range, .notTable value.kind⟩

variable {α : Type} (known : List String) (ofName? : String → Option α)

/-- What a name written in a range stands for. -/
def named (name : String) : Except Fault α :=
  match ofName? name with
  | some found => .ok found
  | none => .error ⟨range, .unknownVariant name known⟩

/-- What the wanted name stands for. -/
def toNamed (value : Value) : Except Fault α :=
  let range := value.range?.getD range
  match value with
  | string _ text => named range known ofName? text
  | table _ _ [(key, value)] => do
    let found ← named key.range known ofName? key.name
    value.checkEmpty range
    return found
  | table _ _ entries => .error ⟨range, .variantCount entries.isEmpty⟩
  | _ => .error ⟨range, .noVariant⟩

end StructuralSearch.Toml.Value
