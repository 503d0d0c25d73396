import PlaneCalc.Operator
import PlaneCalc.Value

/-!
# Expressions and statements

The trees that input lines stand for, and their text. The text of a binary expression is always in
parentheses, so it shows the shape of the tree; an assignment is written with an equals sign.

Reference: `vecalc.core.ir.expressions`.
-/

namespace PlaneCalc

/-- An expression. -/
inductive Expr where
  | literal (value : Value)
  | reference (name : String)
  | binary (op : Operator) (left right : Expr)
deriving DecidableEq

namespace Expr

/-- The text of an expression. -/
def text : Expr → String
  | literal v => v.text
  | reference name => name
  | binary op left right => "(" ++ left.text ++ " " ++ op.text ++ " " ++ right.text ++ ")"

/-- The values that an expression spells out, in the order of its text. -/
def literals : Expr → List Value
  | literal v => [v]
  | reference _ => []
  | binary _ left right => left.literals ++ right.literals

/-- The names that an expression refers to, in the order of its text. -/
def names : Expr → List String
  | literal _ => []
  | reference name => [name]
  | binary _ left right => left.names ++ right.names

/-- The parts of an expression in the order in which they are due: those of the left operand, those of
the right operand, and the expression itself. -/
def postorder : Expr → List Expr
  | literal v => [literal v]
  | reference name => [reference name]
  | binary op left right => left.postorder ++ right.postorder ++ [binary op left right]

theorem mem_postorder_self (e : Expr) : e ∈ e.postorder := by
  cases e <;> simp [postorder]

/-- The number of nodes on the longest path from the root. -/
def depth : Expr → Nat
  | literal _ => 1
  | reference _ => 1
  | binary _ left right => 1 + max left.depth right.depth

/-- The greatest number of steps to a right operand on a path from the root. -/
def rightNesting : Expr → Nat
  | literal _ => 0
  | reference _ => 0
  | binary _ left right => max left.rightNesting (1 + right.rightNesting)

end Expr

/-- A statement: an expression, or its assignment to a variable. -/
inductive Statement where
  | expression (e : Expr)
  | assignment (target : String) (value : Expr)
deriving DecidableEq

namespace Statement

/-- The expression that a statement evaluates. -/
def body : Statement → Expr
  | expression e => e
  | assignment _ value => value

/-- The text of a statement. -/
def text : Statement → String
  | expression e => e.text
  | assignment target value => target ++ " = " ++ value.text

/-- The number of nodes on the longest path from the root. -/
def depth : Statement → Nat
  | expression e => e.depth
  | assignment _ value => 1 + value.depth

end Statement

end PlaneCalc
