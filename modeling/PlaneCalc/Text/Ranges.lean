/-!
# Character classes as ranges of code points

A class is a list of closed ranges in ascending order. Membership walks the list and stops at the
first range that begins above the code point, so a small code point is settled by the head of the
list whatever the length of the table.
-/

namespace PlaneCalc.Text

/-- Closed ranges of code points, ascending. -/
abbrev Ranges := List (Nat × Nat)

/-- Membership in a class, decided by the ranges up to the code point. -/
def Ranges.contains : Ranges → Nat → Bool
  | [], _ => false
  | (low, high) :: rest, code =>
    if code < low then false else if code ≤ high then true else Ranges.contains rest code

end PlaneCalc.Text
