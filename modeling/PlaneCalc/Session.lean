import PlaneCalc.Evaluation
import PlaneCalc.Grammar.Line

/-!
# Sessions

A session runs lines against its bindings. An assignment is evaluated and its target recorded while
the line is read, against the bindings before the line; its result is what was recorded. Any other
statement is evaluated afterwards and records nothing.

Reference: `vecalc.core.interpreter`.
-/

namespace PlaneCalc

/-- The statement of a line, and the bindings after an assignment took effect. -/
def parseInto (lang : Language) (b : Bindings) (line : String) : Except Fault Statement × Bindings :=
  Grammar.statement lang (Text.compact line) b fun target value b =>
    (Statement.assignment target value).evaluate b

/-! ## Running a line -/

/-- What a session logs. -/
inductive LogRecord where
  | executing (line : String)
  | bound (name : String) (value : Operand)
  | cleared
  | failed (line : String)
deriving DecidableEq

namespace LogRecord

/-- The part of the program that logs a record. -/
def source : LogRecord → String
  | executing _ => "vecalc.core.interpreter"
  | bound _ _ => "vecalc.core.expression_lang.bindings"
  | cleared => "vecalc.core.expression_lang.bindings"
  | failed _ => "vecalc.cli"

/-- The text of a record. -/
def text : LogRecord → String
  | executing line => "Executing " ++ Text.Quoted.encode line
  | bound name value => "Bound " ++ name ++ " = " ++ value.text
  | cleared => "Cleared all bindings"
  | failed line => "Line failed: " ++ Text.Quoted.encode line

/-- A record as a line of the log. -/
def line (r : LogRecord) : String := r.source ++ " - DEBUG - " ++ r.text

end LogRecord

/-- What running a line gives: a result, the bindings afterwards, and the log. -/
structure Execution where
  result : Except Fault Operand
  bindings : Bindings
  log : List LogRecord

/-- Run a line. The value of an assignment is the one it recorded. -/
def execute (lang : Language) (b : Bindings) (line : String) : Execution :=
  match parseInto lang b line with
  | (.error f, b') => ⟨.error f, b', [.executing line]⟩
  | (.ok (.assignment target _), b') =>
    match b'.lookup target with
    | .error f => ⟨.error (.evaluation f), b', [.executing line]⟩
    | .ok v => ⟨.ok v, b', [.executing line, .bound target v]⟩
  | (.ok (.expression e), b') =>
    match (Statement.expression e).evaluate b' with
    | (.error f, b'') => ⟨.error (.evaluation f), b'', [.executing line]⟩
    | (.ok v, b'') => ⟨.ok v, b'', [.executing line]⟩

end PlaneCalc
