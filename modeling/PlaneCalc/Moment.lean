/-!
# Moments

A day of the calendar, a time of day, or both, with or without an offset from universal time. A moment
has a plain text and a description that names its parts; in both an hour of the day counts from
midnight, and a fraction of a second is shown only where there is one.
-/

namespace PlaneCalc

/-- A number in decimal digits, filled with zeros up to a width. -/
def padded (width n : Nat) : String :=
  let digits := Nat.toDigits 10 n
  String.ofList (List.replicate (width - digits.length) '0' ++ digits)

/-- A day of the calendar. -/
structure Day where
  year : Nat
  month : Nat
  day : Nat
deriving DecidableEq

namespace Day

/-- Whether a year has a leap day. -/
def isLeap (year : Nat) : Bool := year % 4 = 0 && (year % 100 ≠ 0 || year % 400 = 0)

/-- The number of days in a month. -/
def daysIn (year month : Nat) : Nat :=
  if month = 2 then if isLeap year then 29 else 28
  else if [4, 6, 9, 11].contains month then 30
  else 31

/-- Whether the calendar has the day; its years are those of four digits, from one on. -/
def isValid (d : Day) : Bool :=
  1 ≤ d.year && d.year ≤ 9999 && 1 ≤ d.month && d.month ≤ 12 && 1 ≤ d.day &&
    d.day ≤ daysIn d.year d.month

/-- The text of a day. -/
def text (d : Day) : String := padded 4 d.year ++ "-" ++ padded 2 d.month ++ "-" ++ padded 2 d.day

/-- The numbers of a day. -/
def numbers (d : Day) : List Nat := [d.year, d.month, d.day]

end Day

/-- A time of day. -/
structure Clock where
  hour : Nat
  minute : Nat
  second : Nat
  microsecond : Nat
deriving DecidableEq

namespace Clock

/-- The text of a time. -/
def text (c : Clock) : String :=
  padded 2 c.hour ++ ":" ++ padded 2 c.minute ++ ":" ++ padded 2 c.second ++
    if c.microsecond = 0 then "" else "." ++ padded 6 c.microsecond

/-- The numbers of a time: seconds and their fraction are left out from the end where they are zero. -/
def numbers (c : Clock) : List Nat :=
  if c.microsecond ≠ 0 then [c.hour, c.minute, c.second, c.microsecond]
  else if c.second ≠ 0 then [c.hour, c.minute, c.second]
  else [c.hour, c.minute]

end Clock

/-- A day, a time, or both with an offset from universal time in minutes, if there is one. -/
inductive Moment where
  | day (d : Day)
  | clock (c : Clock)
  | both (d : Day) (c : Clock) (offset : Option Int)
deriving DecidableEq

namespace Moment

/-- The text of an offset. -/
def offsetText (minutes : Int) : String :=
  (if minutes < 0 then "-" else "+") ++ padded 2 (minutes.natAbs / 60) ++ ":" ++
    padded 2 (minutes.natAbs % 60)

/-- The text of a moment. -/
def text : Moment → String
  | day d => d.text
  | clock c => c.text
  | both d c offset => d.text ++ " " ++ c.text ++ (offset.map offsetText).getD ""

/-- An offset with the names of its parts: whole days, at most one and only below zero, and seconds. -/
def offsetDescription (minutes : Int) : String :=
  if minutes = 0 then "datetime.timezone.utc"
  else
    let seconds := toString (minutes % 1440 * 60)
    "datetime.timezone(datetime.timedelta(" ++
      (if minutes < 0 then "days=-1, seconds=" else "seconds=") ++ seconds ++ "))"

/-- Numbers between commas. -/
def listed (ns : List Nat) : String := ", ".intercalate (ns.map toString)

/-- A moment with the names of its parts. -/
def description : Moment → String
  | day d => "datetime.date(" ++ listed d.numbers ++ ")"
  | clock c => "datetime.time(" ++ listed c.numbers ++ ")"
  | both d c offset =>
    "datetime.datetime(" ++ listed (d.numbers ++ c.numbers) ++
      (offset.map fun o => ", tzinfo=" ++ offsetDescription o).getD "" ++ ")"

/-- How many layers a description has: the parts of an offset are described inside it. -/
def layers : Moment → Nat
  | both _ _ (some offset) => if offset = 0 then 2 else 3
  | _ => 1

end Moment

end PlaneCalc
