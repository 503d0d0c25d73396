import PlaneCalc.Decimal

/-!
# The shortest decimal of a binary64 number

Among the decimals that read back as a given finite number, the shortest has the fewest significant
digits, and of those with equally many it is the nearest. For each count of digits only the two
neighbours of the number on that decimal grid can qualify, and seventeen digits always suffice; the
exact decimal expansion stands behind the search, so that whatever it returns reads back.
-/

namespace PlaneCalc.Decimal

/-- The least number of decimal places that brings `num / den` up to one or more. -/
def placesToOne (num den : Nat) : Nat :=
  ((List.range 330).find? fun k => den ≤ num * Nat.pow 10 k).getD 330

/-- The exponent of the first significant digit of `num / den`. -/
def leadingExponent (num den : Nat) : Int :=
  if den ≤ num then (Nat.toDigits 10 (num / den)).length - 1 else -(placesToOne num den : Int)

/-- The two decimals next to `num / den` on the grid `10 ^ exponent`, the nearer one first and of two
equally near ones the even one. -/
def neighbours (negative : Bool) (num den : Nat) (exponent : Int) : List Decimal :=
  let scaled := num * Nat.pow 10 (-exponent).toNat
  let step := den * Nat.pow 10 exponent.toNat
  let low : Decimal := ⟨negative, scaled / step, exponent⟩
  let high : Decimal := ⟨negative, scaled / step + 1, exponent⟩
  if Double.roundQuotient scaled step = scaled / step then [low, high] else [high, low]

/-- The exact value of a finite number. -/
def exact (x : Double) : Decimal := ⟨x.isNegative, x.units * Nat.pow 5 1074, -1074⟩

/-- The shortest decimal that reads back as a finite number other than zero. -/
def shortest (x : Double) : Decimal :=
  let leading := leadingExponent x.units Double.unitsPerOne
  let found := (List.range 17).findSome? fun (k : Nat) =>
    (neighbours x.isNegative x.units Double.unitsPerOne (leading - k)).find? fun d => d.toDouble = x
  found.getD (exact x)

end PlaneCalc.Decimal
