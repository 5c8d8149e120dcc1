/-!
# Doubles

A double is a whole number of at most 53 bits times a power of two.  A number is rounded to the
nearest double, of two equally near ones to the one with the even mantissa.  All steps work on
fractions of whole numbers, so nothing is lost before the rounding.
-/

namespace StructuralSearch

/-- A quotient of two whole numbers. -/
structure Fraction where
  numerator : Nat
  denominator : Nat
  deriving DecidableEq, Repr

namespace Fraction

/-- A number multiplied with a power of a base. -/
def scale (base : Nat) (exponent : Int) (fraction : Fraction) : Fraction :=
  ⟨fraction.numerator * Nat.pow base exponent.toNat,
    fraction.denominator * Nat.pow base (-exponent).toNat⟩

/-- The sum of two numbers. -/
def add (a b : Fraction) : Fraction :=
  ⟨a.numerator * b.denominator + b.numerator * a.denominator, a.denominator * b.denominator⟩

/-- A number divided by a whole one. -/
def divide (fraction : Fraction) (divisor : Nat) : Fraction :=
  ⟨fraction.numerator, fraction.denominator * divisor⟩

/-- The whole part. -/
def floor (fraction : Fraction) : Nat :=
  fraction.numerator / fraction.denominator

/-- The nearest whole number; halfway between two it is the even one. -/
def round (fraction : Fraction) : Nat :=
  let whole := fraction.floor
  let twice := 2 * (fraction.numerator % fraction.denominator)
  if fraction.denominator < twice ∨ (twice = fraction.denominator ∧ whole % 2 = 1) then whole + 1
  else whole

/-- Whether one number is less than another. -/
def less (a b : Fraction) : Bool :=
  a.numerator * b.denominator < b.numerator * a.denominator

/-- No number is less than itself. -/
theorem less_self (a : Fraction) : a.less a = false := by
  simp [less]

end Fraction

/-- A finite double without its sign. -/
structure Double where
  mantissa : Nat
  exponent : Int
  deriving DecidableEq, Repr

namespace Double

/-- The least number with more than 53 bits. -/
def mantissaBound : Nat := 0x20000000000000

/-- The least mantissa of a double that is not among the smallest. -/
def leastMantissa : Nat := 0x10000000000000

/-- The least exponent of a double. -/
def leastExponent : Int := -1074

/-- The greatest exponent of a double. -/
def greatestExponent : Int := 971

/-- The number that a double is. -/
def toFraction (double : Double) : Fraction :=
  Fraction.scale 2 double.exponent ⟨double.mantissa, 1⟩

/-- The exponent of the double nearest to a number above zero: the least one with which the
mantissa is small enough. -/
def exponentOf (value : Fraction) : Int :=
  let guess : Int := (value.numerator.log2 : Int) - value.denominator.log2 - 53
  let exponent :=
    if (value.scale 2 (-guess)).floor < mantissaBound then guess else guess + 1
  max exponent leastExponent

/-- The double nearest to a number, unless that is too great. -/
def nearest? (value : Fraction) : Option Double :=
  if value.numerator = 0 then some ⟨0, leastExponent⟩
  else
    let power := exponentOf value
    let mantissa := (value.scale 2 (-power)).round
    let (mantissa, power) :=
      if mantissa = mantissaBound then (leastMantissa, power + 1) else (mantissa, power)
    if greatestExponent < power then none else some ⟨mantissa, power⟩

/-- The nearest double as a number; a number that is too great stays as it is. -/
def rounded (value : Fraction) : Fraction :=
  (nearest? value).elim value toFraction

/-- Zero is a double. -/
theorem nearest?_zero (denominator : Nat) :
    nearest? ⟨0, denominator⟩ = some ⟨0, leastExponent⟩ := by
  simp [nearest?]

end Double

end StructuralSearch
