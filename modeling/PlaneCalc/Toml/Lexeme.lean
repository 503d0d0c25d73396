import PlaneCalc.Decimal
import PlaneCalc.Setting

/-!
# Lexemes of TOML

Keys, strings, numbers and comments at the front of a list of characters. Each reader gives what it
read and the rest, or nothing if the text breaks the rules of the format.
-/

namespace PlaneCalc.Toml

/-- Spaces inside a line. -/
def isSpace (c : Char) : Bool := c = ' ' || c = '\t'

/-- Spaces and line ends. -/
def isSpaceOrNewline (c : Char) : Bool := isSpace c || c = '\n'

/-- The text after the spaces inside a line. -/
def skipSpace (input : List Char) : List Char := input.dropWhile isSpace

/-- Control characters that neither a comment nor a string on one line may hold. -/
def isControl (c : Char) : Bool := (c.toNat < 0x20 || c.toNat = 0x7F) && c ≠ '\t'

/-- The text after a comment, if one begins here; a comment goes to the end of the line. -/
def skipComment : List Char → Option (List Char)
  | '#' :: rest =>
    if (rest.takeWhile (· ≠ '\n')).any isControl then none else some (rest.dropWhile (· ≠ '\n'))
  | input => some input

/-! ## Strings -/

/-- The value of a hexadecimal digit. -/
def hexValue (c : Char) : Option Nat :=
  if c.isDigit then some (c.toNat - '0'.toNat)
  else if 'a' ≤ c ∧ c ≤ 'f' then some (c.toNat - 'a'.toNat + 10)
  else if 'A' ≤ c ∧ c ≤ 'F' then some (c.toNat - 'A'.toNat + 10)
  else none

/-- The number that hexadecimal digits spell. -/
def hexNumber (digits : List Char) : Option Nat :=
  digits.foldlM (fun n c => (hexValue c).map (16 * n + ·)) 0

/-- A character given by a fixed number of hexadecimal digits. -/
def codePoint (width : Nat) (input : List Char) : Option (List Char × List Char) := do
  let digits := input.take width
  let code ← if digits.length = width then hexNumber digits else none
  if code < 0xD800 || (0xE000 ≤ code && code < 0x110000) then
    some ([Char.ofNat code], input.drop width)
  else none

/-- What a backslash stands for, by the text after it. In a string of several lines it also joins
lines. -/
def escaped (multiline : Bool) : List Char → Option (List Char × List Char)
  | 'b' :: rest => some (['\x08'], rest)
  | 't' :: rest => some (['\t'], rest)
  | 'n' :: rest => some (['\n'], rest)
  | 'f' :: rest => some (['\x0c'], rest)
  | 'r' :: rest => some (['\r'], rest)
  | '"' :: rest => some (['"'], rest)
  | '\\' :: rest => some (['\\'], rest)
  | 'u' :: rest => codePoint 4 rest
  | 'U' :: rest => codePoint 8 rest
  | c :: rest =>
    if multiline && isSpaceOrNewline c then
      match skipSpace (c :: rest) with
      | [] => some ([], [])
      | '\n' :: rest => some ([], rest.dropWhile isSpaceOrNewline)
      | _ => none
    else none
  | [] => none

/-- A string with escapes, after its opening quotes. Each round takes at least one character. -/
def basicString (multiline : Bool) : Nat → List Char → Option (List Char × List Char)
  | 0, _ => none
  | _ + 1, [] => none
  | rounds + 1, '"' :: rest =>
    if !multiline then some ([], rest)
    else
      match rest with
      | '"' :: '"' :: after => some ([], after)
      | _ => (basicString multiline rounds rest).map fun (text, after) => ('"' :: text, after)
  | rounds + 1, '\\' :: rest => do
    let (c, rest) ← escaped multiline rest
    let (text, after) ← basicString multiline rounds rest
    return (c ++ text, after)
  | rounds + 1, c :: rest =>
    if isControl c && !(multiline && c = '\n') then none
    else (basicString multiline rounds rest).map fun (text, after) => (c :: text, after)

/-- A string without escapes, after its opening quote. -/
def literalString (input : List Char) : Option (List Char × List Char) :=
  let text := input.takeWhile (· ≠ '\'')
  match input.dropWhile (· ≠ '\'') with
  | [] => none
  | _ :: after => if text.any isControl then none else some (text, after)

/-- A string of several lines without escapes, after its opening quotes. -/
def literalLines : List Char → Option (List Char × List Char)
  | [] => none
  | '\'' :: '\'' :: '\'' :: after => some ([], after)
  | c :: rest =>
    if isControl c && c ≠ '\n' then none
    else (literalLines rest).map fun (text, after) => (c :: text, after)

/-- Up to two quotes that stand directly before the closing ones belong to a string of several
lines. -/
def withExtraQuotes (quote : Char) (text after : List Char) : List Char × List Char :=
  match after with
  | c :: d :: rest =>
    if c = quote then
      if d = quote then (text ++ [quote, quote], rest) else (text ++ [quote], d :: rest)
    else (text, c :: d :: rest)
  | [c] => if c = quote then (text ++ [quote], []) else (text, [c])
  | [] => (text, [])

/-- The text after a line end that directly follows opening quotes. -/
def skipFirstNewline : List Char → List Char
  | '\n' :: rest => rest
  | input => input

/-- A string of any of the four kinds. -/
def stringValue : List Char → Option (List Char × List Char)
  | '"' :: '"' :: '"' :: rest => do
    let (text, after) ← basicString true (rest.length + 1) (skipFirstNewline rest)
    return withExtraQuotes '"' text after
  | '"' :: rest => basicString false (rest.length + 1) rest
  | '\'' :: '\'' :: '\'' :: rest => do
    let (text, after) ← literalLines (skipFirstNewline rest)
    return withExtraQuotes '\'' text after
  | '\'' :: rest => literalString rest
  | _ => none

/-! ## Keys -/

/-- Characters of a key without quotes. -/
def isBareKey (c : Char) : Bool := c.isAlphanum || c = '-' || c = '_'

/-- One part of a dotted key. -/
def keyPart : List Char → Option (String × List Char)
  | '"' :: rest =>
    (basicString false (rest.length + 1) rest).map fun (text, after) => (String.ofList text, after)
  | '\'' :: rest => (literalString rest).map fun (text, after) => (String.ofList text, after)
  | input =>
    match input.takeWhile isBareKey with
    | [] => none
    | text => some (String.ofList text, input.dropWhile isBareKey)

/-- The parts of a dotted key, and the text after it and the spaces behind it. -/
def dottedKey : Nat → List Char → Option (List String × List Char)
  | 0, _ => none
  | rounds + 1, input => do
    let (part, rest) ← keyPart input
    match skipSpace rest with
    | '.' :: rest => do
      let (parts, after) ← dottedKey rounds (skipSpace rest)
      return (part :: parts, after)
    | after => return ([part], after)

/-! ## Numbers -/

/-- Digits after the first one of a run, with single underscores between them left out. -/
def moreDigits (isDigit : Char → Bool) : List Char → List Char × List Char
  | '_' :: d :: rest =>
    if isDigit d then
      let (ds, after) := moreDigits isDigit rest
      (d :: ds, after)
    else ([], '_' :: d :: rest)
  | c :: rest =>
    if isDigit c then
      let (ds, after) := moreDigits isDigit rest
      (c :: ds, after)
    else ([], c :: rest)
  | [] => ([], [])

/-- A run of digits, if there is one. -/
def digitRun (isDigit : Char → Bool) : List Char → Option (List Char × List Char)
  | c :: rest =>
    if isDigit c then
      let (ds, after) := moreDigits isDigit rest
      some (c :: ds, after)
    else none
  | [] => none

/-- The number that digits spell in a base up to sixteen. -/
def numberIn (base : Nat) (digits : List Char) : Nat :=
  digits.foldl (fun n c => base * n + (hexValue c).getD 0) 0

/-- An integer in base sixteen, eight or two. -/
def basedInteger : List Char → Option (Setting × List Char)
  | '0' :: 'x' :: rest => do
    let (ds, after) ← digitRun (fun c => (hexValue c).isSome) rest
    return (.integer (numberIn 16 ds), after)
  | '0' :: 'o' :: rest => do
    let (ds, after) ← digitRun (fun c => '0' ≤ c ∧ c ≤ '7') rest
    return (.integer (numberIn 8 ds), after)
  | '0' :: 'b' :: rest => do
    let (ds, after) ← digitRun (fun c => c = '0' ∨ c = '1') rest
    return (.integer (numberIn 2 ds), after)
  | _ => none

/-- An optional sign. -/
def sign : List Char → Bool × List Char
  | '-' :: rest => (true, rest)
  | '+' :: rest => (false, rest)
  | input => (false, input)

/-- The whole part of a decimal number: a single zero, or digits that begin with another one. -/
def wholePart : List Char → Option (List Char × List Char)
  | '0' :: rest => some (['0'], rest)
  | input => digitRun Char.isDigit input

/-- The digits after a point, if a point and a digit come next. -/
def fractionPart : List Char → List Char × List Char
  | '.' :: rest => (digitRun Char.isDigit rest).getD ([], '.' :: rest)
  | input => ([], input)

/-- The exponent, if its letter and a digit come next. -/
def exponentPart : List Char → Option (Int × List Char)
  | c :: rest =>
    if c = 'e' || c = 'E' then
      let (negative, digits) := sign rest
      (digitRun Char.isDigit digits).map fun (ds, after) =>
        (if negative then -(numberIn 10 ds : Int) else numberIn 10 ds, after)
    else none
  | [] => none

/-- The nearest float to digits and an exponent. An exponent is cut off where the float is infinite or
zero whatever more there is of it. -/
def floatOf (negative : Bool) (digits : List Char) (exponent : Int) : Double :=
  let bound : Int := digits.length + 400
  Decimal.toDouble ⟨negative, numberIn 10 digits, max (-bound) (min exponent bound)⟩

/-- A decimal integer or float. -/
def decimalNumber (input : List Char) : Option (Setting × List Char) := do
  let (negative, input) := sign input
  let (whole, rest) ← wholePart input
  let (fraction, rest) := fractionPart rest
  match exponentPart rest with
  | some (e, after) =>
    return (.float (floatOf negative (whole ++ fraction) (e - fraction.length)), after)
  | none =>
    if fraction.isEmpty then
      let n : Int := numberIn 10 whole
      return (.integer (if negative then -n else n), rest)
    else return (.float (floatOf negative (whole ++ fraction) (-fraction.length)), rest)

/-- The floats that have no digits. -/
def specialFloat (input : List Char) : Option (Setting × List Char) :=
  match sign input with
  | (negative, 'i' :: 'n' :: 'f' :: after) => some (.float (.ofMagnitude negative Double.infinity), after)
  | (_, 'n' :: 'a' :: 'n' :: after) => some (.float ⟨0x7FF8000000000000⟩, after)
  | _ => none

/-- A truth value. -/
def boolean : List Char → Option (Setting × List Char)
  | 't' :: 'r' :: 'u' :: 'e' :: after => some (.bool true, after)
  | 'f' :: 'a' :: 'l' :: 's' :: 'e' :: after => some (.bool false, after)
  | _ => none

end PlaneCalc.Toml
