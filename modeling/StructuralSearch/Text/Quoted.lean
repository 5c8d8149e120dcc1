import StructuralSearch.Text.Graphic

/-!
# Quoted lists

Lists of names appear in reports as `["a", "b"]`.  Inside the quotes a quote and a backslash are
preceded by a backslash, and a character that is not graphic is written as an escape.
-/

namespace StructuralSearch.Text

/-- The lower-case hexadecimal digits of a number. -/
def hexDigits (n : Nat) : List Char :=
  Nat.toDigits 16 n

/-- A character as it is written between quotes. -/
def quotedChar (c : Char) : List Char :=
  if c = '"' ∨ c = '\\' then ['\\', c]
  else if c = '\n' then ['\\', 'n']
  else if c = '\r' then ['\\', 'r']
  else if c = '\t' then ['\\', 't']
  else if c = '\x00' then ['\\', '0']
  else if isGraphic c then [c]
  else "\\u\x7b".toList ++ hexDigits c.toNat ++ ['}']

/-- A text between quotes. -/
def quoted (text : String) : String :=
  "\"" ++ String.ofList (text.toList.flatMap quotedChar) ++ "\""

/-- A list of texts, each between quotes. -/
def quotedList (texts : List String) : String :=
  "[" ++ ", ".intercalate (texts.map quoted) ++ "]"

end StructuralSearch.Text
