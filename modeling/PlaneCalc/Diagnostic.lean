/-!
# Diagnostics

What the calculator tells about a failure: a category, a text, and, for a failure inside an input
line, the place. The short form of a diagnostic is one line; its report spreads the same over several
rows and puts a caret under the offending character.

Reference: `vecalc.core.errors`.
-/

namespace PlaneCalc

/-- Families of failures. -/
inductive Category where
  | general
  | expressionSyntax
  | malformedNumber
  | invalidStatement
  | unexpectedEnd
  | evaluation
  | undefinedVariable
  | unsupportedOperation
  | divisionByZero
  | invalidMark
  | configuration
deriving DecidableEq

namespace Category

/-- The name a category is announced by. -/
def name : Category → String
  | general => "VecalcError"
  | expressionSyntax => "ExpressionSyntaxError"
  | malformedNumber => "MalformedNumber"
  | invalidStatement => "InvalidStatement"
  | unexpectedEnd => "UnexpectedEndOfInput"
  | evaluation => "EvaluationError"
  | undefinedVariable => "UndefinedVariable"
  | unsupportedOperation => "UnsupportedOperation"
  | divisionByZero => "DivisionByZero"
  | invalidMark => "InvalidMark"
  | configuration => "ConfigError"

/-- Every category. -/
def all : List Category :=
  [general, expressionSyntax, malformedNumber, invalidStatement, unexpectedEnd, evaluation,
    undefinedVariable, unsupportedOperation, divisionByZero, invalidMark, configuration]

/-- The category announced by a name. -/
def ofName? (name : String) : Option Category := all.find? fun c => c.name = name

/-- Whether failures of the category lie in the text of a line. -/
def isSyntactic : Category → Bool
  | expressionSyntax | malformedNumber | invalidStatement | unexpectedEnd => true
  | _ => false

end Category

/-- A place in an input line. -/
structure Location where
  /-- The line without its blanks. -/
  line : String
  /-- Offset of the offending character, counted in characters. -/
  position : Int
  /-- What stands there; nothing past the end of the line. -/
  found : Option String
  /-- What could have stood there, when only one character could. -/
  expected : Option String
deriving DecidableEq

namespace Location

/-- The location of an index into a line, with the character found there. -/
def ofIndex (line : String) (index : Nat) (expected : Option String) : Location :=
  ⟨line, index, line.toList[index]?.map fun c => c.toString, expected⟩

/-- The location of an offset. A negative offset counts from the end of the line; there is none before
its beginning. -/
def ofOffset? (line : String) (offset : Int) (expected : Option String) : Option Location :=
  if 0 ≤ offset then some (ofIndex line offset.toNat expected)
  else if -offset ≤ line.length then
    some { ofIndex line (line.length - (-offset).toNat) expected with position := offset }
  else none

/-- The rows of a report: the line and its caret unless the line is empty, what was received, what
was expected if that is known, and the text of the failure. -/
def rows (l : Location) (text : String) : List String :=
  (if l.line.isEmpty then []
    else
      ["Line:\t\t" ++ l.line,
        "\t\t" ++ String.ofList (List.replicate l.position.toNat ' ') ++ "^"])
    ++ ["Received:\t" ++
        match l.found with
        | none => "<end of input>"
        | some c => "'" ++ c ++ "'"]
    ++ (match l.expected with
        | none => []
        | some c => ["Expected:\t'" ++ c ++ "'"])
    ++ ["Message:\t" ++ text]

end Location

/-- A failure as it is told. -/
structure Diagnostic where
  category : Category
  text : String
  location : Option Location
deriving DecidableEq

namespace Diagnostic

/-- The diagnostic on one line. -/
def message (d : Diagnostic) : String :=
  match d.location with
  | none => d.text
  | some l => d.text ++ " (at position " ++ toString l.position ++ ")"

/-- The diagnostic as rows. -/
def rows (d : Diagnostic) : List String :=
  match d.location with
  | none => ["Message:\t" ++ d.text]
  | some l => l.rows d.text

/-- The diagnostic as one text of several rows. -/
def report (d : Diagnostic) : String := "\n".intercalate d.rows

end Diagnostic

end PlaneCalc
