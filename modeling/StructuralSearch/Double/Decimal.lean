import StructuralSearch.Double.Basic

/-!
# Doubles in decimal digits

A decimal number is read as the nearest double.  A double is written with the fewest digits that
lead back to it, and among those with the nearest to it.
-/

namespace StructuralSearch.Double

/-- The double nearest to `digits * 10 ^ exponent`, unless that is too great. -/
def ofDecimal? (digits : Nat) (exponent : Int) : Option Double :=
  let size : Int := digits.log2
  if digits = 0 ∨ (exponent < 0 ∧ size + 3 * exponent < -1100) then some ⟨0, leastExponent⟩
  else if 0 ≤ exponent ∧ 1100 < size + 3 * exponent then none
  else nearest? (Fraction.scale 10 exponent ⟨digits, 1⟩)

/-- The number that lies some quarters of the distance to the next double from a double. -/
def shifted (double : Double) (quarters : Int) : Fraction :=
  Fraction.scale 2 (double.exponent - 2) ⟨(4 * (double.mantissa : Int) + quarters).toNat, 1⟩

/-- The number of a decimal grid, in steps of `10 ^ power`, that lies nearest to a double among
the neighbours that lead back to it. -/
def onGrid? (double : Double) (power : Int) : Option Nat :=
  let value := double.toFraction
  let low := double.shifted (if double.mantissa = leastMantissa then -1 else -2)
  let high := double.shifted 2
  let leadsBack (number : Fraction) : Bool :=
    if double.mantissa % 2 = 0 then !number.less low && !high.less number
    else low.less number && number.less high
  let below := (value.scale 10 (-power)).floor
  let point (steps : Nat) : Fraction := Fraction.scale 10 power ⟨steps, 1⟩
  let half := Fraction.scale 10 power ⟨2 * below + 1, 2⟩
  if leadsBack (point (below + 1)) ∧ (¬leadsBack (point below) ∨ !value.less half) then
    some (below + 1)
  else if leadsBack (point below) then some below
  else none

/-- The powers of ten on whose grid a double can lie, from the coarsest. -/
def powers : List Int :=
  (List.range 654).map fun (step : Nat) => (309 : Int) - step

/-- The fewest decimal digits that lead back to a double, as a whole number and the power of ten
that it is multiplied with. -/
def shortest (double : Double) : Nat × Int :=
  if double.mantissa = 0 then (0, 0)
  else
    (powers.findSome? fun power =>
      (double.onGrid? power).map fun digits => (digits, power)).getD (double.mantissa, 0)

end StructuralSearch.Double
