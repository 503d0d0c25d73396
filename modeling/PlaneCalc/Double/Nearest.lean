import PlaneCalc.Double

/-!
# The nearest binary64 number

A non-negative rational, counted in units of `2 ^ (-1074)`, is rounded to 53 significant binary places,
or to a whole unit if that is coarser. A half goes to the even neighbour. Because magnitudes are
numbered consecutively, a significand that rounds up to the next power of two carries into the
exponent by itself, and everything from the infinite magnitude on is cut off there.
-/

namespace PlaneCalc.Double

/-- A quotient rounded to the nearest natural number, a half to the even one. -/
def roundQuotient (num den : Nat) : Nat :=
  let low := num / den
  let twice := 2 * (num % den)
  if twice < den then low else if den < twice then low + 1 else low + low % 2

/-- The magnitude nearest to `num / den` units. -/
def nearest (num den : Nat) : Nat :=
  let shift := Nat.log2 (num / den) - 52
  min (shift * fractions + roundQuotient num (den * Nat.pow 2 shift)) infinity

end PlaneCalc.Double
