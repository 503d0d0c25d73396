import PlaneCalc.Expr
import PlaneCalc.Grammar.Numeral
import PlaneCalc.Language

/-!
# Atoms

The parts of an expression that contain no other: numbers, vectors of two numerals, and names of
lower-case letters. An opening bracket commits the input to a vector and a letter to a name; a name
must be followed by an operator character, a closing character or the end of the line.

Reference: `vecalc.core.expression_lang.tokenizer`.
-/

namespace PlaneCalc.Grammar

/-- A number. -/
def number (input : List Char) : Reading Expr :=
  (Numeral.read input).map fun n => .literal (.scalar n.toDouble)

/-- A component of a vector, which must be a numeral. -/
def component (input : List Char) : Reading Double :=
  ((Numeral.read input).map Numeral.toDouble).orFail .componentMissing input

/-- The components of a vector up to its closing bracket. -/
def components (input : List Char) : Reading Expr :=
  (component input).andThen fun x rest =>
  (expect ',' rest).andThen fun _ rest =>
  (component rest).andThen fun y rest =>
  (expect ']' rest).andThen fun _ rest =>
  .found (.literal (.vector x y)) rest

/-- A vector. -/
def vector : List Char → Reading Expr
  | '[' :: rest => components rest
  | _ => .absent

/-- A name. -/
def name (lang : Language) (input : List Char) : Reading String :=
  match input.takeWhile Char.isLower, input.dropWhile Char.isLower with
  | [], _ => .absent
  | letters, rest =>
    if lang.endsName rest then .found (String.ofList letters) rest else .failed .nameRunsOn rest

/-- A reference to a variable. -/
def reference (lang : Language) (input : List Char) : Reading Expr :=
  (name lang input).map .reference

end PlaneCalc.Grammar
