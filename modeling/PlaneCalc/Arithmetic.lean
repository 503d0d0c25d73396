import PlaneCalc.Diagnostic
import PlaneCalc.Operator
import PlaneCalc.Value

/-!
# Arithmetic on values

An operator acts on two scalars as it does on numbers, and on two vectors axis by axis; a scalar
beside a vector stands for both axes, and the operands keep their order. Division refuses a divisor
that is zero, either zero, and says on which axis if the divisor is a vector. Everything else that
can go wrong while an expression is evaluated is listed here as well.

Reference: `vecalc.core.expression_lang.arithmetic`.
-/

namespace PlaneCalc

/-- What can go wrong while an expression is evaluated. -/
inductive EvalFault where
  /-- A variable was read that has no value. -/
  | undefined (name : String)
  /-- An operator has no meaning for the kinds of its operands. -/
  | unsupported (operator left right : String)
  /-- A divisor is zero, on one axis if it is a vector. -/
  | divisionByZero (operator operand : String) (axis : Option String)
  /-- Operators are nested too deeply on the right. -/
  | nestedTooDeeply
  /-- Something was to be evaluated that is no expression. -/
  | unknownExpression (type : String)
deriving DecidableEq

namespace EvalFault

/-- The category of an evaluation fault. -/
def category : EvalFault → Category
  | undefined _ => .undefinedVariable
  | unsupported _ _ _ => .unsupportedOperation
  | divisionByZero _ _ _ => .divisionByZero
  | nestedTooDeeply => .evaluation
  | unknownExpression _ => .evaluation

/-- The operand, or its axis, that a division blames. -/
def blamed (operand : String) : Option String → String
  | none => operand ++ " operand"
  | some axis =>
    if axis.isEmpty then operand ++ " operand" else axis ++ " axis of the " ++ operand ++ " operand"

/-- The wording of an evaluation fault. -/
def text : EvalFault → String
  | undefined name => "Variable '" ++ name ++ "' is not defined."
  | unsupported operator left right =>
    "Unsupported operation: " ++ left ++ " " ++ operator ++ " " ++ right
  | divisionByZero operator operand axis =>
    "Cannot divide by zero: " ++ blamed operand axis ++ " of '" ++ operator ++ "' is zero."
  | nestedTooDeeply => "Expression nested too deeply"
  | unknownExpression type => "Unknown expression type: " ++ type

/-- An evaluation fault as it is told; it has no place in a line. -/
def diagnostic (f : EvalFault) : Diagnostic := ⟨f.category, f.text, none⟩

end EvalFault

namespace Operator

/-- The operator on numbers. -/
def onNumbers : Operator → Double → Double → Double
  | add, x, y => x + y
  | sub, x, y => x - y
  | mul, x, y => x * y
  | div, x, y => x / y

/-- The operator on the numbers of one axis, or of scalars, with zero divisors refused. -/
def combine (op : Operator) (x y : Double) (axis : Option Axis) : Except EvalFault Double :=
  if op = .div ∧ y.isZero then
    .error (.divisionByZero op.text "right" (axis.map Axis.name))
  else .ok (op.onNumbers x y)

/-- The operator on values. -/
def onValues (op : Operator) : Value → Value → Except EvalFault Value
  | .scalar a, .scalar b => do
    let n ← op.combine a b none
    return .scalar n
  | .vector a₁ a₂, .vector b₁ b₂ => do
    let x ← op.combine a₁ b₁ (some .x)
    let y ← op.combine a₂ b₂ (some .y)
    return .vector x y
  | .vector a₁ a₂, .scalar b => do
    let x ← op.combine a₁ b none
    let y ← op.combine a₂ b none
    return .vector x y
  | .scalar a, .vector b₁ b₂ => do
    let x ← op.combine a b₁ (some .x)
    let y ← op.combine a b₂ (some .y)
    return .vector x y

/-- The operator on operands: foreign objects are refused. -/
def apply (op : Operator) : Operand → Operand → Except EvalFault Operand
  | .value a, .value b => do
    let v ← op.onValues a b
    return .value v
  | a, b => .error (.unsupported op.text a.kind b.kind)

/-- The operator that a text stands for, on operands: an unknown operator is refused. -/
def applyText (operator : String) (left right : Operand) : Except EvalFault Operand :=
  match ofText? operator with
  | none => .error (.unsupported operator left.kind right.kind)
  | some op => op.apply left right

end Operator

end PlaneCalc
