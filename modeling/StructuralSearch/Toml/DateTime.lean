import StructuralSearch.Toml.Misread

/-!
# Dates and times in TOML

A date is written `2000-12-31` and a time `23:59:60.999`.  A time may follow a date behind a `T` or
a blank, and an offset from universal time may follow such a time.  Only what is left behind a date
or a time is known afterwards, since no value of a program is made from one.

A date is known by its year and the first hyphen, a time by its hour and the first colon; what
is wrong behind them is final.
-/

namespace StructuralSearch.Toml.DateTime

/-- A number of two digits that lies within bounds. -/
def pair (name : String) (low high : Nat) (text : List Char) :
    Except Misread (Nat × List Char) :=
  match text with
  | tens :: ones :: rest =>
    if tens.isDigit ∧ ones.isDigit then
      let value := (tens.toNat - '0'.toNat) * 10 + (ones.toNat - '0'.toNat)
      if low ≤ value ∧ value ≤ high then .ok (value, rest)
      else .error ⟨text, .within name .outOfRange, false⟩
    else .error (malformed text (some name) [])
  | _ => .error (malformed text (some name) [])

/-- Skips a mark. -/
def mark (name : String) (c : Char) : List Char → Except Misread (List Char)
  | [] => .error (malformed [] (some name) [])
  | d :: rest => if d = c then .ok rest else .error (malformed (d :: rest) (some name) [])

/-- The number of days of a month. -/
def daysOf (year month : Nat) : Nat :=
  if month = 2 then
    if year % 4 = 0 ∧ (year % 100 ≠ 0 ∨ year % 400 = 0) then 29 else 28
  else if month ∈ [4, 6, 9, 11] then 30
  else 31

/-- The name of dates in problems, also of dates with a time. -/
def dateName : String := "date-time"

/-- Skips a date. -/
def date (text : List Char) : Except Misread (List Char) := do
  let (century, rest) ← pair dateName 0 99 text
  let (year, rest) ← pair dateName 0 99 rest
  let rest ← mark dateName '-' rest
  Misread.committed do
    let (month, rest) ← pair dateName 1 12 rest
    let days ← mark dateName '-' rest
    let (day, rest) ← pair dateName 1 31 days
    if daysOf (century * 100 + year) month < day then
      throw ⟨days, .within dateName .outOfRange, false⟩
    return rest

/-- Skips the fraction of a second, if there is one. -/
def fraction (text : List Char) : List Char :=
  match text with
  | '.' :: c :: rest => if c.isDigit then rest.dropWhile Char.isDigit else text
  | _ => text

/-- Skips a time. -/
def time (name : String) (text : List Char) : Except Misread (List Char) := do
  let (_, rest) ← pair name 0 23 text
  let rest ← mark name ':' rest
  Misread.committed do
    let (_, rest) ← pair name 0 59 rest
    let rest ← mark name ':' rest
    let (_, rest) ← pair name 0 60 rest
    return fraction rest

/-- The name of offsets in problems. -/
def offsetName : String := "time offset"

/-- Skips an offset, if there is one. -/
def offset (text : List Char) : Except Misread (List Char) :=
  match text with
  | [] => .ok []
  | c :: rest =>
    if c = 'Z' ∨ c = 'z' then .ok rest
    else if c = '+' ∨ c = '-' then Misread.committed do
      let (_, rest) ← pair offsetName 0 23 rest
      let rest ← mark offsetName ':' rest
      let (_, rest) ← pair offsetName 0 59 rest
      return rest
    else .ok text

/-- Skips the time behind a date, if there is one. -/
def timeOfDay (text : List Char) : Except Misread (List Char) :=
  match text with
  | [] => .ok []
  | c :: behind =>
    if c = 'T' ∨ c = 't' ∨ c = ' ' then do
      match ← Misread.attempt (time dateName behind) with
      | some rest => offset rest
      | none => return text
    else .ok text

/-- What is left behind a date, a time, or both; nothing where the text does not start with one. -/
def skip? (text : List Char) : Except Misread (Option (List Char)) := do
  match ← Misread.attempt (date text) with
  | some rest => return some (← timeOfDay rest)
  | none => Misread.attempt (time "time" text)

end StructuralSearch.Toml.DateTime
