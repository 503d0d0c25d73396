/-!
# Operators

The four arithmetic operators and the characters that stand for them.

Reference: `vecalc.core.ir.expressions`.
-/

namespace PlaneCalc

/-- An arithmetic operator. -/
inductive Operator where
  | add
  | sub
  | mul
  | div
deriving DecidableEq

namespace Operator

/-- The character that stands for an operator. -/
def symbol : Operator → Char
  | add => '+'
  | sub => '-'
  | mul => '*'
  | div => '/'

/-- The operators that chain terms to a product. -/
def multiplicative : List Operator := [mul, div]

/-- The operators that chain products to a sum. -/
def additive : List Operator := [add, sub]

/-- Every operator. -/
def all : List Operator := additive ++ multiplicative

/-- The operator of a list that a character stands for. -/
def ofSymbol? (operators : List Operator) (c : Char) : Option Operator :=
  operators.find? fun op => op.symbol = c

/-- The operator that a text of one character stands for. -/
def ofText? (text : String) : Option Operator :=
  match text.toList with
  | [c] => ofSymbol? all c
  | _ => none

/-- An operator as a text. -/
def text (op : Operator) : String := op.symbol.toString

/-- An operator is read back from its text. -/
@[simp] theorem ofText?_text (op : Operator) : ofText? op.text = some op := by
  cases op <;> decide +kernel

end Operator

end PlaneCalc
