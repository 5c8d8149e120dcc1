import StructuralSearch.Double.Decimal
import StructuralSearch.Toml.Misread

/-!
# Numbers in TOML

A whole number is decimal with an optional sign and no leading zero, or has the base 16, 8 or 2
behind a mark.  Single underscores may stand between digits.  A number with a fraction or an
exponent is read as a double and kept as the decimal digits that the double is written with,
without an exponent.
-/

namespace StructuralSearch.Toml

/-- A number. -/
inductive Numeral
  | integer (value : Int)
  | fractional (digits : String)
  deriving DecidableEq, Repr

namespace Numeral

/-- The value of a digit in any base up to sixteen. -/
def digitValue (c : Char) : Nat :=
  if c.isDigit then c.toNat - '0'.toNat
  else if c.isLower then c.toNat - 'a'.toNat + 10
  else c.toNat - 'A'.toNat + 10

/-- Whether a character is a digit of a base. -/
def isDigitOf (base : Nat) (c : Char) : Bool :=
  c.isAlphanum && digitValue c < base

/-- The value of digits in a base. -/
def valueOf (base : Nat) (digits : List Char) : Nat :=
  digits.foldl (fun value c => value * base + digitValue c) 0

/-- The digits that follow a digit, without the single underscores before them.  Behind an
underscore there has to be a digit. -/
def furtherDigits (base : Nat) (problem : Problem) (text : List Char) :
    Except Misread (List Char × List Char) :=
  match text with
  | '_' :: c :: rest =>
    if isDigitOf base c then do
      let (others, rest) ← furtherDigits base problem rest
      return (c :: others, rest)
    else .error ⟨c :: rest, problem, true⟩
  | ['_'] => .error ⟨[], problem, true⟩
  | c :: rest =>
    if isDigitOf base c then do
      let (others, rest) ← furtherDigits base problem rest
      return (c :: others, rest)
    else .ok ([], c :: rest)
  | [] => .ok ([], [])

/-- Digits where there has to be one at once, else the first problem arises. -/
def digits (base : Nat) (missing problem : Problem) (text : List Char) :
    Except Misread (List Char × List Char) :=
  match text with
  | c :: rest =>
    if isDigitOf base c then do
      let (others, rest) ← furtherDigits base problem rest
      return (c :: others, rest)
    else .error ⟨text, missing, true⟩
  | [] => .error ⟨[], missing, true⟩

/-- The sign at the start of a text, and what follows it. -/
def sign : List Char → Bool × List Char
  | '-' :: rest => (true, rest)
  | '+' :: rest => (false, rest)
  | text => (false, text)

/-- A problem with the digits of a number with a fraction or an exponent. -/
def fractionalProblem (expected : List String) : Problem :=
  .malformed (some "floating-point number") expected

/-- The whole part of a decimal number. -/
def wholePart (text : List Char) : Except Misread (List Char × List Char) :=
  match text with
  | '0' :: rest => .ok (['0'], rest)
  | c :: rest =>
    if c.isDigit then do
      let (others, rest) ← furtherDigits 10 (.malformed (some "integer") ["digit"]) rest
      return (c :: others, rest)
    else .error (malformed text (some "integer") [])
  | [] => .error (malformed [] (some "integer") [])

/-- The digits behind the point; none where there is no point. -/
def fraction (text : List Char) : Except Misread (List Char × List Char) :=
  match text with
  | '.' :: behind =>
    digits 10 (fractionalProblem ["digit"]) (fractionalProblem ["digit", "digit"]) behind
  | text => .ok ([], text)

/-- The exponent; nothing where there is none. -/
def exponent (text : List Char) : Except Misread (Option Int × List Char) :=
  match text with
  | [] => .ok (none, [])
  | c :: behind =>
    if c = 'e' ∨ c = 'E' then do
      let (isNegative, behind) := sign behind
      let (digits, rest) ← digits 10 (fractionalProblem []) (fractionalProblem ["digit"]) behind
      let value : Int := valueOf 10 digits
      return (some (if isNegative then -value else value), rest)
    else .ok (none, text)

/-- A whole number times a power of ten, written without an exponent. -/
def positional (digits : Nat) (exponent : Int) : String :=
  let digits := (Nat.toDigits 10 digits)
  let point : Int := digits.length + exponent
  let before := digits.take point.toNat ++ List.replicate (point.toNat - digits.length) '0'
  let behind := List.replicate (-point).toNat '0' ++ digits.drop point.toNat
  let orZero (part : List Char) := if part.isEmpty then ['0'] else part
  String.ofList (orZero before ++ '.' :: orZero behind)

/-- The text of the double nearest to a decimal number.  Too great a number is infinite, which is
refused unless it is negative. -/
def double? (isNegative : Bool) (digits : Nat) (exponent : Int) : Option String :=
  match Double.ofDecimal? digits exponent with
  | some double =>
    let (digits, exponent) := double.shortest
    some ((if isNegative then "-" else "") ++ positional digits exponent)
  | none => if isNegative then some "-inf" else none

/-- The least whole number that does not fit into 64 bits with a sign. -/
def integerBound : Int := 0x8000000000000000

/-- A whole number that fits into 64 bits; a problem with it is one with all of the text. -/
def fitting (text : List Char) (value : Int) (rest : List Char) :
    Except Misread (Numeral × List Char) :=
  if value < -integerBound then .error ⟨text, .tooWide true, true⟩
  else if integerBound ≤ value then .error ⟨text, .tooWide false, true⟩
  else .ok (.integer value, rest)

/-- Reads a decimal number. -/
def decimal (text : List Char) : Except Misread (Numeral × List Char) := do
  let (isNegative, behind) := sign text
  let (whole, behind) ← wholePart behind
  let (fraction, behind) ← fraction behind
  let (exponent, behind) ← exponent behind
  if fraction.isEmpty ∧ exponent.isNone then
    let value : Int := valueOf 10 whole
    fitting text (if isNegative then -value else value) behind
  else
    let exponent := exponent.getD 0 - fraction.length
    match double? isNegative (valueOf 10 (whole ++ fraction)) exponent with
    | some digits => return (.fractional digits, behind)
    | none => throw ⟨text, fractionalProblem [], true⟩

/-- Reads a number in another base than ten behind its mark; `text` starts with the mark. -/
def based (base : Nat) (name : String) (text behind : List Char) :
    Except Misread (Numeral × List Char) := do
  let (digits, rest) ←
    digits base (.malformed (some name) []) (.malformed (some name) ["digit"]) behind
  fitting text (valueOf base digits) rest

/-- Reads a number that starts with a sign or a digit. -/
def read (text : List Char) : Except Misread (Numeral × List Char) :=
  match text with
  | '0' :: 'x' :: behind => based 16 "hexadecimal integer" text behind
  | '0' :: 'o' :: behind => based 8 "octal integer" text behind
  | '0' :: 'b' :: behind => based 2 "binary integer" text behind
  | text =>
    let (isNegative, behind) := sign text
    match behind with
    | 'i' :: 'n' :: 'f' :: rest =>
      .ok (.fractional (if isNegative then "-inf" else "inf"), rest)
    | 'n' :: 'a' :: 'n' :: rest => .ok (.fractional "NaN", rest)
    | _ => decimal text

end Numeral

end StructuralSearch.Toml
