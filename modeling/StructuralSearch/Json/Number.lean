import StructuralSearch.Double.Decimal

/-!
# Numbers of JSON

The format sets no bound to a number.  Where a value has to be held before it is known what it is
for, its numbers are held as doubles, and a number that is too great for a double cannot be held.

Of the digits only those count that fit a natural number below `2^64`.  The whole digits behind
them still raise the power of ten; the fraction digits behind them are left out.  The counted digits
and the power of ten are rounded to doubles each, and their product once more, which is why a number
very close to the bound may be refused although its nearest double is finite.
-/

namespace StructuralSearch

/-- Two numbers multiplied. -/
def Fraction.multiply (a b : Fraction) : Fraction :=
  ⟨a.numerator * b.numerator, a.denominator * b.denominator⟩

namespace Json

/-- The largest number that is read as a natural number. -/
def naturalLimit : Nat := 0xffffffffffffffff

/-- The greatest power of ten that is a double. -/
def tenthPowerLimit : Int := 308

/-- The largest exponent whose digits are counted. -/
def exponentLimit : Nat := 0x7fffffff

/-- The value of a decimal digit. -/
def digitValue (c : Char) : Nat :=
  c.toNat - '0'.toNat

/-- The value of decimal digits. -/
def digitsValue (digits : List Char) : Nat :=
  digits.foldl (fun value c => value * 10 + digitValue c) 0

/-- A number as it is written. -/
structure Literal where
  negative : Bool
  /-- the digits before the point -/
  whole : List Char
  /-- the digits behind the point, none if there is no point -/
  fraction : List Char
  /-- whether the exponent has a minus sign -/
  shrinks : Bool
  /-- the digits of the exponent, none if there is no exponent -/
  exponent : List Char
  deriving Repr

namespace Literal

/-- Whether nothing but digits is written. -/
def isPlain (literal : Literal) : Bool :=
  !literal.negative && literal.fraction.isEmpty && literal.exponent.isEmpty

/-- The number with its signs and its point.  The exponent has no plus sign. -/
def chars (literal : Literal) : List Char :=
  (if literal.negative then ['-'] else []) ++ literal.whole ++
    (if literal.fraction.isEmpty then [] else '.' :: literal.fraction) ++
    (if literal.exponent.isEmpty then []
      else 'e' :: (if literal.shrinks then ['-'] else []) ++ literal.exponent)

/-- A value continued with as many digits as fit, and the digits behind them. -/
def counted : Nat → List Char → Nat × List Char
  | value, [] => (value, [])
  | value, c :: digits =>
    if value * 10 + digitValue c ≤ naturalLimit then counted (value * 10 + digitValue c) digits
    else (value, c :: digits)

/-- The counted digits as a natural number, and the power of ten that it is multiplied with before
the exponent. -/
def parts (literal : Literal) : Nat × Int :=
  let (value, uncounted) := counted 0 literal.whole
  let (value, ignored) := counted value literal.fraction
  (value, (uncounted.length : Int) + ignored.length - literal.fraction.length)

/-- Whether a natural number times a power of ten is at most the greatest double. -/
def isFiniteProduct (value : Nat) (power : Int) : Bool :=
  if value = 0 ∨ power < 0 then true
  else if tenthPowerLimit < power then false
  else
    let ten := Double.rounded (Fraction.scale 10 power ⟨1, 1⟩)
    (Double.nearest? ((Double.rounded ⟨value, 1⟩).multiply ten)).isSome

/-- Whether the number can be held as a double. -/
def isFinite (literal : Literal) : Bool :=
  let (value, power) := literal.parts
  let exponent := digitsValue literal.exponent
  if exponentLimit < exponent then value == 0 || literal.shrinks
  else isFiniteProduct value (if literal.shrinks then power - exponent else power + exponent)

/-- What is counted stays a natural number that can be read. -/
theorem counted_le {value : Nat} (fits : value ≤ naturalLimit) (digits : List Char) :
    (counted value digits).1 ≤ naturalLimit := by
  induction digits generalizing value with
  | nil => exact fits
  | cons c digits ih =>
    simp only [counted]
    split
    · rename_i more
      exact ih more
    · exact fits

/-- Zero can be held with any exponent. -/
theorem isFiniteProduct_zero (power : Int) : isFiniteProduct 0 power = true := by
  simp [isFiniteProduct]

end Literal

end Json

end StructuralSearch
