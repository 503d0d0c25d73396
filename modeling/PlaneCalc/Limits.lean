/-!
# Limits of the host

How much of a configuration the host can read and show. A decimal integer is read and written only up to
a number of digits. What is nested is followed only as far as the stack has room, which depends on how
much of it is in use at the place where a value is read or shown; the numbers are therefore parameters,
and `Limits.usual` is one example.
-/

namespace PlaneCalc

/-- What the host has room for. -/
structure Limits where
  /-- The greatest number of decimal digits of an integer that is read or shown. -/
  digits : Nat
  /-- The room for arrays and tables inside each other when a file is read. -/
  reading : Nat
  /-- How many layers of a value are shown, by the key of the setting that it is the value of. -/
  showing : String → Nat
  /-- There is always room for values that have nothing nested in them. -/
  showing_enough : ∀ key, 4 ≤ showing key

/-- The limits of a host whose stack is hardly in use. -/
def Limits.usual : Limits := ⟨4300, 970, fun _ => 980, fun _ => by decide⟩

end PlaneCalc
