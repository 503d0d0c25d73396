import PlaneCalc.Diagnostic
import PlaneCalc.Operator

/-!
# Syntax faults

Why a line could not be read, and where. Each cause has one category and one wording; the causes that
a single missing character would have avoided name that character.

Reference: `vecalc.core.errors`.
-/

namespace PlaneCalc

/-- Why a line cannot be read. -/
inductive SyntaxCause where
  /-- A minus sign begins a number without a digit after it. -/
  | signWithoutDigit
  /-- A zero begins a longer whole part. -/
  | leadingZero
  /-- No digit follows a decimal point. -/
  | pointWithoutDigit
  /-- A number goes on with a second decimal point. -/
  | secondPoint
  /-- A vector lacks a component. -/
  | componentMissing
  /-- One certain character had to come. -/
  | missing (c : Char)
  /-- A name runs into a character that cannot follow it. -/
  | nameRunsOn
  /-- Nothing that begins a statement. -/
  | statementMissing
  /-- A complete expression is followed by more. -/
  | trailingInput
  /-- An assignment symbol without a value. -/
  | valueMissing (symbol : Char)
  /-- A complete assignment is followed by more. -/
  | trailingAfterAssignment
  /-- An operator without its right operand. -/
  | operandMissing (op : Operator)
  /-- An opening parenthesis without an expression. -/
  | groupEmpty
  /-- Parentheses are nested too deeply. -/
  | nestedTooDeeply
  /-- A character was asked for past the end. -/
  | endOfInput
  /-- A step was taken past the end. -/
  | stepPastEnd
deriving DecidableEq

namespace SyntaxCause

/-- The category of a cause. -/
def category : SyntaxCause → Category
  | signWithoutDigit | leadingZero | pointWithoutDigit | secondPoint => .malformedNumber
  | statementMissing | trailingInput => .invalidStatement
  | endOfInput | stepPastEnd => .unexpectedEnd
  | _ => .expressionSyntax

/-- The wording of a cause. -/
def text : SyntaxCause → String
  | signWithoutDigit => "Expected a digit after the negative sign"
  | leadingZero => "Leading zeros are not allowed"
  | pointWithoutDigit => "Expected a digit after the decimal point"
  | secondPoint => "A number may contain only one decimal point"
  | componentMissing => "Expected a number as vector component"
  | missing c => "Expected '" ++ c.toString ++ "'"
  | nameRunsOn => "Unexpected character after variable name"
  | statementMissing => "Expected an assignment or an expression"
  | trailingInput => "Unexpected input after expression"
  | valueMissing symbol => "Expected an expression after '" ++ symbol.toString ++ "'"
  | trailingAfterAssignment => "Unexpected input after assignment"
  | operandMissing op => "Expected an operand after '" ++ op.text ++ "'"
  | groupEmpty => "Expected an expression after '('"
  | nestedTooDeeply => "Expression nested too deeply"
  | endOfInput => "Unexpected end of input"
  | stepPastEnd => "Cannot advance past end of input"

/-- The one character that had to come, if there is one. -/
def expected : SyntaxCause → Option Char
  | missing c => some c
  | _ => none

end SyntaxCause

/-- A cause and the place where it arose in a line without blanks. -/
structure SyntaxFault where
  line : List Char
  position : Nat
  cause : SyntaxCause
deriving DecidableEq

namespace SyntaxFault

/-- A fault where a rest of the line begins. -/
def atRest (line rest : List Char) (cause : SyntaxCause) : SyntaxFault :=
  ⟨line, line.length - rest.length, cause⟩

/-- Where a fault is, and what was found and expected there. -/
def location (f : SyntaxFault) : Location :=
  .ofIndex (String.ofList f.line) f.position (f.cause.expected.map fun c => c.toString)

/-- A syntax fault as it is told. -/
def diagnostic (f : SyntaxFault) : Diagnostic := ⟨f.cause.category, f.cause.text, some f.location⟩

end SyntaxFault

end PlaneCalc
