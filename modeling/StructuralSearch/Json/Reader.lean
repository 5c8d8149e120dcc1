import StructuralSearch.Json.Basic

/-!
# Reading JSON

The reader takes one value and refuses anything but white space behind it.  White space is the four
characters of the format, strings hold no control characters, and a number has no leading zeros.

Each part of the reader returns what it read together with the rest of the text.
-/

namespace StructuralSearch.Json

/-- The white space of the format. -/
def isSpace (c : Char) : Bool :=
  c == ' ' || c == '\n' || c == '\t' || c == '\r'

/-- The text behind leading white space. -/
def skipSpace (text : List Char) : List Char :=
  text.dropWhile isSpace

/-- The value of a hexadecimal digit. -/
def hexValue? (c : Char) : Option Nat :=
  if c.isDigit then some (c.toNat - '0'.toNat)
  else if 'a' ≤ c && c ≤ 'f' then some (c.toNat - 'a'.toNat + 10)
  else if 'A' ≤ c && c ≤ 'F' then some (c.toNat - 'A'.toNat + 10)
  else none

/-- The value of four hexadecimal digits. -/
def hexValue4? (a b c d : Char) : Option Nat := do
  return (((← hexValue? a) * 16 + (← hexValue? b)) * 16 + (← hexValue? c)) * 16 + (← hexValue? d)

/-- The character that stands behind a backslash for itself or for a control character. -/
def escaped? : Char → Option Char
  | '"' => some '"'
  | '\\' => some '\\'
  | '/' => some '/'
  | 'b' => some '\x08'
  | 'f' => some '\x0c'
  | 'n' => some '\n'
  | 'r' => some '\r'
  | 't' => some '\t'
  | _ => none

/-- The code units of a string behind its opening quote, and the text behind its closing quote. -/
def stringUnits : List Char → Option (List Nat × List Char)
  | [] => none
  | '"' :: rest => some ([], rest)
  | '\\' :: 'u' :: a :: b :: c :: d :: rest => do
    let unit ← hexValue4? a b c d
    let (units, rest) ← stringUnits rest
    return (unit :: units, rest)
  | '\\' :: c :: rest => do
    let c ← escaped? c
    let (units, rest) ← stringUnits rest
    return (c.toNat :: units, rest)
  | c :: rest =>
    if c.toNat < 0x20 then none
    else do
      let (units, rest) ← stringUnits rest
      return (c.toNat :: units, rest)

/-- The text of code units, in which two surrogates in their order stand for one character. -/
def textOfUnits : List Nat → Option (List Char)
  | [] => some []
  | [unit] => if 0xd800 ≤ unit ∧ unit < 0xe000 then none else some [Char.ofNat unit]
  | unit :: next :: units =>
    if 0xd800 ≤ unit ∧ unit < 0xdc00 then
      if 0xdc00 ≤ next ∧ next < 0xe000 then
        (textOfUnits units).map
          (Char.ofNat (0x10000 + (unit - 0xd800) * 0x400 + (next - 0xdc00)) :: ·)
      else none
    else if 0xdc00 ≤ unit ∧ unit < 0xe000 then none
    else (textOfUnits (next :: units)).map (Char.ofNat unit :: ·)

/-- A string behind its opening quote. -/
def stringBody (text : List Char) : Option (Option String × List Char) := do
  let (units, rest) ← stringUnits text
  return ((textOfUnits units).map String.ofList, rest)

/-- The digits at the start of a text, at least one. -/
def digits? (text : List Char) : Option (List Char × List Char) :=
  match text.takeWhile Char.isDigit with
  | [] => none
  | digits => some (digits, text.dropWhile Char.isDigit)

/-- The digits before the point, of which the first is no zero unless it is the only one. -/
def whole? (text : List Char) : Option (List Char × List Char) := do
  let (digits, rest) ← digits? text
  if digits.head? = some '0' ∧ digits.length ≠ 1 then none
  else return (digits, rest)

/-- The digits behind a point, if there is one. -/
def fraction? : List Char → Option (List Char × List Char)
  | '.' :: text => digits? text
  | text => some ([], text)

/-- Whether an exponent has a minus sign, and the text behind its sign. -/
def exponentSign : List Char → Bool × List Char
  | '+' :: text => (false, text)
  | '-' :: text => (true, text)
  | text => (false, text)

/-- Whether an exponent has a minus sign, and its digits, if there is one. -/
def exponent? (text : List Char) : Option ((Bool × List Char) × List Char) :=
  match text with
  | 'e' :: behind | 'E' :: behind => do
    let (shrinks, behind) := exponentSign behind
    let (digits, rest) ← digits? behind
    return ((shrinks, digits), rest)
  | text => some ((false, []), text)

/-- Whether a number has a minus sign, and the text behind its sign. -/
def numberSign : List Char → Bool × List Char
  | '-' :: text => (true, text)
  | text => (false, text)

/-- The number of a literal. -/
def ofLiteral (literal : Literal) : Json :=
  if literal.isPlain && digitsValue literal.whole ≤ naturalLimit then
    natural (digitsValue literal.whole)
  else otherNumber literal

/-- A number. -/
def number? (text : List Char) : Option (Json × List Char) := do
  let (negative, text) := numberSign text
  let (whole, text) ← whole? text
  let (fraction, text) ← fraction? text
  let ((shrinks, exponent), text) ← exponent? text
  return (ofLiteral ⟨negative, whole, fraction, shrinks, exponent⟩, text)

mutual

/-- A value, read with at most `fuel` steps. -/
def value? (fuel : Nat) (text : List Char) : Option (Json × List Char) :=
  match fuel with
  | 0 => none
  | fuel + 1 =>
    match skipSpace text with
    | 'n' :: 'u' :: 'l' :: 'l' :: rest => some (null, rest)
    | 't' :: 'r' :: 'u' :: 'e' :: rest => some (bool true, rest)
    | 'f' :: 'a' :: 'l' :: 's' :: 'e' :: rest => some (bool false, rest)
    | '"' :: rest => do
      let (text, rest) ← stringBody rest
      return (string text, rest)
    | '[' :: rest =>
      match skipSpace rest with
      | ']' :: rest => some (array [], rest)
      | rest => do
        let (items, rest) ← items? fuel rest
        return (array items, rest)
    | '\x7b' :: rest =>
      match skipSpace rest with
      | '\x7d' :: rest => some (object [], rest)
      | rest => do
        let (members, rest) ← memberList? fuel rest
        return (object members, rest)
    | text => number? text

/-- The items of an array up to its closing bracket, at least one. -/
def items? (fuel : Nat) (text : List Char) : Option (List Json × List Char) :=
  match fuel with
  | 0 => none
  | fuel + 1 => do
    let (item, rest) ← value? fuel text
    match skipSpace rest with
    | ',' :: rest =>
      let (items, rest) ← items? fuel rest
      return (item :: items, rest)
    | ']' :: rest => return ([item], rest)
    | _ => none

/-- The members of an object up to its closing brace, at least one. -/
def memberList? (fuel : Nat) (text : List Char) :
    Option (List (Option String × Json) × List Char) :=
  match fuel with
  | 0 => none
  | fuel + 1 =>
    match skipSpace text with
    | '"' :: rest => do
      let (name, rest) ← stringBody rest
      match skipSpace rest with
      | ':' :: rest =>
        let (value, rest) ← value? fuel rest
        match skipSpace rest with
        | ',' :: rest =>
          let (members, rest) ← memberList? fuel rest
          return ((name, value) :: members, rest)
        | '\x7d' :: rest => return ([(name, value)], rest)
        | _ => none
      | _ => none
    | _ => none

end

/-- The value that a text is.  Two steps for each character are enough. -/
def parse (text : String) : Option Json := do
  let chars := text.toList
  let (value, rest) ← value? (2 * chars.length + 2) chars
  if (skipSpace rest).isEmpty then some value else none

end StructuralSearch.Json
