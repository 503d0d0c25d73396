import PlaneCalc.Bindings
import PlaneCalc.Expr

/-!
# Evaluation

An expression is evaluated along its left spine: the innermost left operand first, then each operator
with its right operand in the order of the line. Only right operands are evaluated by recursion, so
the length of a chain is not bounded; how deep operators nest on the right is. Operands come before
their operator, and the first fault ends the evaluation.

Reference: `vecalc.core.expression_lang.evaluator`.
-/

namespace PlaneCalc

namespace Expr

/-- The innermost left operand, and the operators with their right operands from there outwards,
before those already collected. -/
def unwind : Expr → List (Operator × Expr) → Expr × List (Operator × Expr)
  | binary op left right, links => left.unwind ((op, right) :: links)
  | head, links => (head, links)

/-- The value of an expression that is no operator expression. -/
def atomValue (b : Bindings) : Expr → Except EvalFault Operand
  | literal v => .ok (.value v)
  | reference name => b.lookup name
  | binary _ _ _ => .error .nestedTooDeeply

/-- The value of an expression whose operators nest less than `levels` deep on the right. -/
def evaluateWithin (b : Bindings) : Nat → Expr → Except EvalFault Operand
  | 0, _ => .error .nestedTooDeeply
  | levels + 1, e => do
    let (head, links) := e.unwind []
    let first ← head.atomValue b
    links.foldlM (fun value link => do
      let right ← evaluateWithin b levels link.2
      link.1.apply value right) first

/-- How deep operators may nest on the right. Like `Grammar.groupLimit` the number stands for what the
stack of the host has room for; it is never less than 200. -/
def nestingLimit : Nat := 495

/-- The value of an expression. -/
def evaluate (b : Bindings) (e : Expr) : Except EvalFault Operand :=
  e.evaluateWithin b (nestingLimit + 1)

end Expr

namespace Statement

/-- The value of a statement, and the bindings after it. -/
def evaluate (b : Bindings) : Statement → Except EvalFault Operand × Bindings
  | expression e => (e.evaluate b, b)
  | assignment target value =>
    match value.evaluate b with
    | .error f => (.error f, b)
    | .ok v => (.ok v, b.record target v)

end Statement

end PlaneCalc
