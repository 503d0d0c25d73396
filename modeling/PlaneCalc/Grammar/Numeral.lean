import PlaneCalc.Decimal
import PlaneCalc.Grammar.Reading

/-!
# Numerals

A numeral is an optional minus sign, a whole part without superfluous zeros and an optional fraction.
Its value is the nearest binary64 number, so `-0` is the negative zero and a long whole part may be
infinite. A digit or a minus sign commits the input to a numeral.

Reference: `vecalc.core.expression_lang.tokenizer`.
-/

namespace PlaneCalc

/-- A numeral by its parts; an empty fraction has no decimal point. -/
structure Numeral where
  negative : Bool
  whole : List Char
  fraction : List Char
deriving DecidableEq

namespace Numeral

/-- The characters of a numeral. -/
def text (n : Numeral) : List Char :=
  (if n.negative then ['-'] else []) ++ n.whole ++ (if n.fraction.isEmpty then [] else '.' :: n.fraction)

/-- The decimal that a numeral spells. -/
def toDecimal (n : Numeral) : Decimal :=
  ⟨n.negative, Nat.ofDigitChars 10 (n.whole ++ n.fraction) 0, -(n.fraction.length : Int)⟩

/-- The number that a numeral stands for. -/
def toDouble (n : Numeral) : Double := n.toDecimal.toDouble

/-- Whether the whole part begins with a superfluous zero. -/
def hasLeadingZero : List Char → Bool
  | '0' :: _ :: _ => true
  | _ => false

/-- Whether the input begins with a digit. -/
def startsWithDigit : List Char → Bool
  | [] => false
  | c :: _ => c.isDigit

/-- The fraction after a whole part, if a decimal point follows. -/
def readFraction (negative : Bool) (whole : List Char) : List Char → Reading Numeral
  | '.' :: rest =>
    if !startsWithDigit rest then .failed .pointWithoutDigit rest
    else
      match rest.dropWhile Char.isDigit with
      | '.' :: more => .failed .secondPoint ('.' :: more)
      | more => .found ⟨negative, whole, rest.takeWhile Char.isDigit⟩ more
  | rest => .found ⟨negative, whole, []⟩ rest

/-- A numeral after its sign; the input begins with a digit. -/
def readUnsigned (negative : Bool) (input : List Char) : Reading Numeral :=
  if hasLeadingZero (input.takeWhile Char.isDigit) then .failed .leadingZero input
  else readFraction negative (input.takeWhile Char.isDigit) (input.dropWhile Char.isDigit)

/-- A numeral at the front of the input. -/
def read : List Char → Reading Numeral
  | '-' :: rest => if startsWithDigit rest then readUnsigned true rest else .failed .signWithoutDigit rest
  | input => if startsWithDigit input then readUnsigned false input else .absent

end Numeral

end PlaneCalc
