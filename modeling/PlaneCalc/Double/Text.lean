import PlaneCalc.Decimal.Shortest

/-!
# Number text

`Double.text` is what a result shows: an integral number as its exact integer, whichever zero as `0`,
and any other number by its shortest decimal. `Double.fullText` always shows a fraction or an
exponent, and the sign of zero. Both write a number positionally when its first significant digit
stands between `10 ^ (-4)` and `10 ^ 15`, and with an exponent of at least two digits otherwise.

Reference: `vecalc.core.ir.values`.
-/

namespace PlaneCalc

namespace Decimal

/-- The digits of the coefficient up to the last one that is not zero. -/
def significant (d : Decimal) : List Char :=
  ((Nat.toDigits 10 d.coefficient).reverse.dropWhile (· = '0')).reverse

/-- The exponent of the first digit of the coefficient. -/
def leading (d : Decimal) : Int := d.exponent + (Nat.toDigits 10 d.coefficient).length - 1

/-- Digits with the point where the exponent of the first one puts it. -/
def positional (digits : List Char) (leading : Int) : List Char :=
  if leading < 0 then '0' :: '.' :: (List.replicate ((-leading).toNat - 1) '0' ++ digits)
  else
    let whole := leading.toNat + 1
    if digits.length ≤ whole then digits ++ List.replicate (whole - digits.length) '0' ++ ['.', '0']
    else digits.take whole ++ '.' :: digits.drop whole

/-- The point after the first of several digits. -/
def pointed : List Char → List Char
  | d :: e :: rest => d :: '.' :: e :: rest
  | digits => digits

/-- An exponent with its sign and at least two digits. -/
def exponentText (e : Int) : List Char :=
  let digits := Nat.toDigits 10 e.natAbs
  (if e < 0 then '-' else '+') :: (List.replicate (2 - digits.length) '0' ++ digits)

/-- The text of a decimal without its sign. -/
def unsignedText (d : Decimal) : List Char :=
  if -4 ≤ d.leading ∧ d.leading < 16 then positional d.significant d.leading
  else pointed d.significant ++ 'e' :: exponentText d.leading

end Decimal

namespace Double

/-- The sign, if the number is negative, before its unsigned text. -/
def signed (negative : Bool) (digits : List Char) : List Char :=
  if negative then '-' :: digits else digits

/-- A number with a fraction or an exponent. -/
def fullText (x : Double) : String :=
  if x.isNaN then "nan"
  else if !x.isFinite then String.ofList (signed x.isNegative ['i', 'n', 'f'])
  else if x.isZero then String.ofList (signed x.isNegative ['0', '.', '0'])
  else String.ofList (signed x.isNegative (Decimal.shortest x).unsignedText)

/-- A number as results show it. -/
def text (x : Double) : String :=
  if x.isFinite && x.isIntegral then
    String.ofList (signed (x.isNegative && !x.isZero) (Nat.toDigits 10 (x.units / unitsPerOne)))
  else x.fullText

end Double

end PlaneCalc
