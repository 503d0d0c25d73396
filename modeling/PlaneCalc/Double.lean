/-!
# Binary64 numbers

A `Double` is its 64 bits, so two of them are equal exactly when no program can tell them apart: the
two zeros differ and the quiet NaN equals itself. Arithmetic is that of the hardware. What the rest
of the library decides about a number (its sign, whether it is zero or finite, its exact size) it
reads off the bits.
-/

namespace PlaneCalc

/-- A binary64 number. -/
structure Double where
  /-- Sign, biased exponent and fraction, from the top. -/
  bits : UInt64
deriving DecidableEq

namespace Double

/-- The machine number with these bits. -/
def toFloat (x : Double) : Float := Float.ofBits x.bits

/-- The bits of a machine number. -/
def ofFloat (x : Float) : Double := ⟨x.toBits⟩

instance : Add Double := ⟨fun x y => ofFloat (x.toFloat + y.toFloat)⟩

instance : Sub Double := ⟨fun x y => ofFloat (x.toFloat - y.toFloat)⟩

instance : Mul Double := ⟨fun x y => ofFloat (x.toFloat * y.toFloat)⟩

instance : Div Double := ⟨fun x y => ofFloat (x.toFloat / y.toFloat)⟩

/-- The weight of the sign bit, `2 ^ 63`. -/
def signWeight : Nat := 0x8000000000000000

/-- The number of fractions that share an exponent, `2 ^ 52`. -/
def fractions : Nat := 0x10000000000000

/-- The bits of the infinite magnitude; a NaN lies above it. -/
def infinity : Nat := 0x7FF * fractions

/-- The bits below the sign, which order the non-negative numbers. -/
def magnitude (x : Double) : Nat := x.bits.toNat % signWeight

/-- Whether the sign bit is set. -/
def isNegative (x : Double) : Bool := decide (signWeight ≤ x.bits.toNat)

/-- Whether the number is one of the two zeros. -/
def isZero (x : Double) : Bool := decide (x.magnitude = 0)

/-- Whether the number is neither infinite nor a NaN. -/
def isFinite (x : Double) : Bool := decide (x.magnitude < infinity)

/-- Whether the number is a NaN. -/
def isNaN (x : Double) : Bool := decide (infinity < x.magnitude)

/-- The number with a given sign and magnitude. -/
def ofMagnitude (negative : Bool) (magnitude : Nat) : Double :=
  ⟨UInt64.ofNat (if negative then signWeight + magnitude else magnitude)⟩

/-- The exact size of a finite number, counted in units of `2 ^ (-1074)`. -/
def units (x : Double) : Nat :=
  let field := x.magnitude / fractions
  let fraction := x.magnitude % fractions
  if field = 0 then fraction else (fractions + fraction) * Nat.pow 2 (field - 1)

/-- Units in the number one. -/
def unitsPerOne : Nat := Nat.pow 2 1074

/-- Whether a finite number is an integer. -/
def isIntegral (x : Double) : Bool := decide (x.units % unitsPerOne = 0)

end Double

end PlaneCalc
