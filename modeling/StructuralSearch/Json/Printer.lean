import StructuralSearch.Json.Basic

/-!
# Writing JSON

Values are written over several lines, two spaces deeper at each level.  Empty arrays and objects
stay on one line.  In strings the quote, the backslash and the control characters are escaped, and
nothing else.
-/

namespace StructuralSearch.Json

/-- A lower-case hexadecimal digit. -/
def hexDigit (n : Nat) : Char :=
  Nat.digitChar n

/-- A character as it is written in a string. -/
def stringChar (c : Char) : List Char :=
  match c with
  | '"' => ['\\', '"']
  | '\\' => ['\\', '\\']
  | '\x08' => ['\\', 'b']
  | '\x0c' => ['\\', 'f']
  | '\n' => ['\\', 'n']
  | '\r' => ['\\', 'r']
  | '\t' => ['\\', 't']
  | c =>
    if c.toNat < 0x20 then
      ['\\', 'u', '0', '0', hexDigit (c.toNat / 16), hexDigit (c.toNat % 16)]
    else [c]

/-- A string; one that stands for no text is written as the empty string. -/
def stringChars (text : Option String) : List Char :=
  '"' :: ((text.getD "").toList.flatMap stringChar ++ ['"'])

/-- A new line at a level. -/
def newLine (level : Nat) : List Char :=
  '\n' :: List.replicate (2 * level) ' '

/-- Entries at a level, each on a line of its own, with commas between them. -/
def entryLines (level : Nat) : List (List Char) → List Char
  | [] => []
  | [entry] => newLine level ++ entry
  | entry :: entries => newLine level ++ entry ++ ',' :: entryLines level entries

/-- Entries between brackets that stand at a level. -/
def enclosed (opening closing : Char) (level : Nat) (entries : List (List Char)) : List Char :=
  if entries.isEmpty then [opening, closing]
  else opening :: entryLines (level + 1) entries ++ newLine level ++ [closing]

mutual

/-- A value at a level. -/
def chars (level : Nat) : Json → List Char
  | null => "null".toList
  | bool true => "true".toList
  | bool false => "false".toList
  | natural value => (toString value).toList
  | otherNumber literal => literal.chars
  | string text => stringChars text
  | array items => enclosed '[' ']' level (itemChars (level + 1) items)
  | object members => enclosed '\x7b' '\x7d' level (memberChars (level + 1) members)

/-- The items of an array at a level. -/
def itemChars (level : Nat) : List Json → List (List Char)
  | [] => []
  | item :: items => chars level item :: itemChars level items

/-- The members of an object at a level. -/
def memberChars (level : Nat) : List (Option String × Json) → List (List Char)
  | [] => []
  | (name, value) :: members =>
    (stringChars name ++ ':' :: ' ' :: chars level value) :: memberChars level members

end

/-- The text of a value. -/
def pretty (value : Json) : String :=
  String.ofList (chars 0 value)

end StructuralSearch.Json
