import StructuralSearch.Json.Number

/-!
# JSON values

A JSON value keeps what a reader of records asks for.  Objects keep their members in the order in
which they are written, repeated names included.  Numbers keep their literal, and the natural
numbers below `2^64` their value.  A string whose escapes are lone surrogates stands for no text;
such a string can be skipped but not read.

A value can be held, to be read later, if it is not nested too deeply, its strings stand for texts
and its numbers are not too great.  A value that is skipped needs none of this.
-/

namespace StructuralSearch

/-- A JSON value. -/
inductive Json where
  | null
  | bool (value : Bool)
  | natural (value : Nat)
  /-- a number that is negative, has a fraction or an exponent, or is too large -/
  | otherNumber (literal : Json.Literal)
  | string (text : Option String)
  | array (items : List Json)
  | object (members : List (Option String × Json))
  deriving Repr

namespace Json

/-- A string that stands for a text. -/
def text (text : String) : Json :=
  string (some text)

/-- An object whose names are texts. -/
def record (members : List (String × Json)) : Json :=
  object (members.map fun (name, value) => (some name, value))

/-- The list of the values, if all of them are there. -/
def collect {α : Type} : List (Option α) → Option (List α)
  | [] => some []
  | value :: values => do
    let value ← value
    let values ← collect values
    return value :: values

/-- The truth value that is written. -/
def toBool? : Json → Option Bool
  | bool value => some value
  | _ => none

/-- The text that is written. -/
def toText? : Json → Option String
  | string text => text
  | _ => none

/-- The natural number that is written, if it is at most `limit`. -/
def toNat? (limit : Nat) : Json → Option Nat
  | natural value => if value ≤ limit then some value else none
  | _ => none

/-- The value that is written, or nothing for `null`. -/
def toOption? {α : Type} (read : Json → Option α) : Json → Option (Option α)
  | null => some none
  | value => (read value).map some

/-- The list that is written. -/
def toList? {α : Type} (read : Json → Option α) : Json → Option (List α)
  | array items => collect (items.map read)
  | _ => none

/-- The member of an enumeration that is named, alone or as the name of a `null`. -/
def toNamed? {α : Type} (ofName? : String → Option α) : Json → Option α
  | string (some name) => ofName? name
  | object [(some name, null)] => ofName? name
  | _ => none

/-- The values of the named members of an object.  No named member may occur twice, and a member
with another name is skipped, or refused if the record is `closed`. -/
def members? (closed : Bool) (names : List String) (members : List (Option String × Json)) :
    Option (List (Option Json)) := do
  let members ← collect (members.map fun (name, value) => name.map (·, value))
  let known := (members.map (·.1)).filter names.contains
  if closed && known.length != members.length then none
  else if known.eraseDups.length != known.length then none
  else return names.map fun name => members.lookup name

/-- The fields of a record: the named members of an object, or the elements of an array in the order
of the names, of which the last ones may be missing. -/
def fields? (closed : Bool) (names : List String) : Json → Option (List (Option Json))
  | object members => members? closed names members
  | array items =>
    if items.length ≤ names.length then
      some (items.map some ++ List.replicate (names.length - items.length) none)
    else none
  | _ => none

mutual

/-- Whether the value can be held: it has at most so many levels of arrays and objects, its strings
stand for texts, and its numbers are not too great. -/
def isHeld (levels : Nat) : Json → Bool
  | otherNumber literal => literal.isFinite
  | string text => text.isSome
  | array items => levels != 0 && allHeld (levels - 1) items
  | object members => levels != 0 && membersHeld (levels - 1) members
  | _ => true

/-- Whether a list of values can be held. -/
def allHeld (levels : Nat) : List Json → Bool
  | [] => true
  | item :: items => isHeld levels item && allHeld levels items

/-- Whether a list of members can be held. -/
def membersHeld (levels : Nat) : List (Option String × Json) → Bool
  | [] => true
  | (name, value) :: members => name.isSome && isHeld levels value && membersHeld levels members

end

end Json

end StructuralSearch
