import PlaneCalc.Toml.Lexeme

/-!
# Moments in TOML

Days and times at the front of a text. A day and a time are divided by a space or the letter T, and an
offset may follow the time. Only the first six digits of a fraction count.
-/

namespace PlaneCalc.Toml

/-- A number of exactly so many digits, between two bounds. -/
def fixedNumber (width low high : Nat) (input : List Char) : Option (Nat × List Char) :=
  let digits := input.take width
  let n := numberIn 10 digits
  if digits.length = width && digits.all Char.isDigit && low ≤ n && n ≤ high then
    some (n, input.drop width)
  else none

/-- The text after one certain character. -/
def after? (c : Char) : List Char → Option (List Char)
  | d :: rest => if d = c then some rest else none
  | [] => none

/-- A day, which the calendar may have or not. -/
def day (input : List Char) : Option (Day × List Char) := do
  let (year, rest) ← fixedNumber 4 0 9999 input
  let (month, rest) ← (after? '-' rest).bind (fixedNumber 2 1 12)
  let (day, rest) ← (after? '-' rest).bind (fixedNumber 2 1 31)
  return (⟨year, month, day⟩, rest)

/-- The fraction of a second in millionths, if a point and a digit come next. -/
def microseconds : List Char → Nat × List Char
  | '.' :: rest =>
    match rest.takeWhile Char.isDigit with
    | [] => (0, '.' :: rest)
    | digits => (numberIn 10 ((digits ++ List.replicate 6 '0').take 6), rest.dropWhile Char.isDigit)
  | input => (0, input)

/-- A time of day. -/
def clock (input : List Char) : Option (Clock × List Char) := do
  let (hour, rest) ← fixedNumber 2 0 23 input
  let (minute, rest) ← (after? ':' rest).bind (fixedNumber 2 0 59)
  let (second, rest) ← (after? ':' rest).bind (fixedNumber 2 0 59)
  let (micro, rest) := microseconds rest
  return (⟨hour, minute, second, micro⟩, rest)

/-- Hours and minutes, in minutes. -/
def hoursAndMinutes (input : List Char) : Option (Nat × List Char) := do
  let (hour, rest) ← fixedNumber 2 0 23 input
  let (minute, rest) ← (after? ':' rest).bind (fixedNumber 2 0 59)
  return (60 * hour + minute, rest)

/-- An offset from universal time in minutes, if one comes next. -/
def offset : List Char → Option Int × List Char
  | 'Z' :: rest | 'z' :: rest => (some 0, rest)
  | '+' :: rest =>
    match hoursAndMinutes rest with
    | some (n, after) => (some n, after)
    | none => (none, '+' :: rest)
  | '-' :: rest =>
    match hoursAndMinutes rest with
    | some (n, after) => (some (-n), after)
    | none => (none, '-' :: rest)
  | input => (none, input)

/-- The time that belongs to a day, if one comes next. -/
def clockAfterDay : List Char → Option (Clock × List Char)
  | 'T' :: rest | 't' :: rest | ' ' :: rest => clock rest
  | _ => none

/-- A moment. A day that the calendar does not have is none, and what stands there is no other value
either. -/
def moment (input : List Char) : Option (Moment × List Char) :=
  match day input with
  | none => (clock input).map fun (c, after) => (.clock c, after)
  | some (d, rest) =>
    if d.isValid then
      match clockAfterDay rest with
      | none => some (.day d, rest)
      | some (c, rest) =>
        let (o, after) := offset rest
        some (.both d c o, after)
    else none

end PlaneCalc.Toml
