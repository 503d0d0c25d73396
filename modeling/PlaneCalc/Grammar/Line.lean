import PlaneCalc.Arithmetic
import PlaneCalc.Grammar.Sum

/-!
# Lines

A line is an assignment or a sum that fills it; an assignment is tried first. Whatever an assignment
does it does as soon as it has been read: `statement` leaves open what that is, so one reader
serves for looking at a line and for running it. `parse` only looks.

Reference: `vecalc.core.expression_lang.parser`.
-/

namespace PlaneCalc

/-- Why a line has no result. -/
inductive Fault where
  | reading (fault : SyntaxFault)
  | evaluation (fault : EvalFault)
deriving DecidableEq

/-- A fault as it is told. -/
def Fault.diagnostic : Fault → Diagnostic
  | reading f => f.diagnostic
  | evaluation f => f.diagnostic

namespace Grammar

/-- An assignment that fills the input. -/
def assignment (lang : Language) (input : List Char) : Reading (String × Expr) :=
  (name lang input).andThen fun target rest =>
    match rest with
    | c :: rest =>
      if c = lang.symbol then
        ((sum lang groupLimit rest).orFail (.valueMissing lang.symbol) rest).andThen
          fun value rest' =>
            match rest' with
            | [] => .found (target, value) []
            | rest' => .failed .trailingAfterAssignment rest'
      else .absent
    | [] => .absent

/-- What was read, if it fills its line. -/
def filling (line : List Char) (s : Statement) : List Char → Except Fault Statement
  | [] => .ok s
  | c :: rest => .error (.reading (.atRest line (c :: rest) .trailingInput))

/-- The statement of a line without blanks. An assignment is committed as soon as it has been read.
That may fail, and the state is the one that the commit leaves, whether it fails or not; whether the
line is filled is looked at afterwards. Without an assignment the state stays. -/
def statement {σ α : Type} (lang : Language) (line : List Char) (state : σ)
    (commit : String → Expr → σ → Except EvalFault α × σ) : Except Fault Statement × σ :=
  match assignment lang line with
  | .failed cause rest => (.error (.reading (.atRest line rest cause)), state)
  | .found (target, value) rest =>
    match commit target value state with
    | (.error f, state') => (.error (.evaluation f), state')
    | (.ok _, state') => (filling line (.assignment target value) rest, state')
  | .absent =>
    match sum lang groupLimit line with
    | .failed cause rest => (.error (.reading (.atRest line rest cause)), state)
    | .absent => (.error (.reading (.atRest line line .statementMissing)), state)
    | .found e rest => (filling line (.expression e) rest, state)

end Grammar

/-- The statement of a line. -/
def parse (lang : Language) (line : String) : Except Fault Statement :=
  (Grammar.statement lang (Text.compact line) () fun _ _ _ => (.ok (), ())).1

end PlaneCalc
