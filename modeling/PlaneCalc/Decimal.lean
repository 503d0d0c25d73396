import PlaneCalc.Double.Nearest

/-!
# Decimal numbers

A signed coefficient and a power of ten. `Decimal.toDouble` reads it as the nearest binary64 number
by exact arithmetic on natural numbers.
-/

namespace PlaneCalc

/-- The number `± coefficient * 10 ^ exponent`. -/
structure Decimal where
  negative : Bool
  coefficient : Nat
  exponent : Int
deriving DecidableEq

namespace Decimal

/-- The size in units, before division by `denominator`. -/
def numerator (d : Decimal) : Nat := d.coefficient * Nat.pow 10 d.exponent.toNat * Double.unitsPerOne

/-- The power of ten that a negative exponent divides by. -/
def denominator (d : Decimal) : Nat := Nat.pow 10 (-d.exponent).toNat

/-- The nearest binary64 number, of the same sign. -/
def toDouble (d : Decimal) : Double :=
  Double.ofMagnitude d.negative (Double.nearest d.numerator d.denominator)

end Decimal

end PlaneCalc
