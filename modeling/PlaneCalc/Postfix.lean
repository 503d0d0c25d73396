import PlaneCalc.Evaluation

/-!
# Trees in postfix order

A statement tree written as a list: every node comes after its subtrees. Reading such a list back
checks that each node has subtrees it may have: an operator takes two expressions, and an assignment
takes one and can only be the root. A list may also hold a bare object where a node should be; as the
root of the whole list it is something to evaluate that is no expression.
-/

namespace PlaneCalc

/-- One entry of a tree in postfix order. -/
inductive PostfixItem where
  | scalar (number : Double)
  | vector (x y : Double)
  | reference (name : String)
  | binary (operator : String)
  | assign (target : String)
  | object (o : Operand)
deriving DecidableEq

/-- What a list in postfix order stands for. -/
inductive Subject where
  | statement (s : Statement)
  | object (o : Operand)
deriving DecidableEq

namespace Subject

/-- The expression that a subject is, if it is one. -/
def expr? : Subject → Option Expr
  | statement (.expression e) => some e
  | _ => none

/-- The value of a subject, and the bindings after it. -/
def evaluate (b : Bindings) : Subject → Except EvalFault Operand × Bindings
  | statement s => s.evaluate b
  | object o => (.error (.unknownExpression o.form), b)

end Subject

/-- The entry of a literal. -/
def Value.postfixItem : Value → PostfixItem
  | scalar n => .scalar n
  | vector x y => .vector x y

/-- The entries of an expression, before those that follow. -/
def Expr.toPostfix : Expr → List PostfixItem → List PostfixItem
  | literal v, tail => v.postfixItem :: tail
  | reference name, tail => .reference name :: tail
  | binary op left right, tail => left.toPostfix (right.toPostfix (.binary op.text :: tail))

/-- The entries of a statement. -/
def Statement.toPostfix : Statement → List PostfixItem
  | expression e => e.toPostfix []
  | assignment target value => value.toPostfix [.assign target]

/-- One entry taken up by the subtrees read so far, the latest first; nothing if it does not fit. -/
def PostfixItem.take (stack : List Subject) : PostfixItem → Option (List Subject)
  | scalar n => some (.statement (.expression (.literal (.scalar n))) :: stack)
  | vector x y => some (.statement (.expression (.literal (.vector x y))) :: stack)
  | reference name => some (.statement (.expression (.reference name)) :: stack)
  | object o => some (.object o :: stack)
  | binary operator =>
    match stack with
    | right :: left :: rest => do
      let op ← Operator.ofText? operator
      let l ← left.expr?
      let r ← right.expr?
      return .statement (.expression (.binary op l r)) :: rest
    | _ => none
  | assign target =>
    match stack with
    | value :: rest => do
      let e ← value.expr?
      return .statement (.assignment target e) :: rest
    | _ => none

/-- What a list in postfix order stands for, if it is one well-formed tree. -/
def Subject.ofPostfix? (items : List PostfixItem) : Option Subject :=
  match items.foldlM PostfixItem.take [] with
  | some [s] => some s
  | _ => none

/-! ## Reading back -/

/-- Reading the entries of an expression puts it on the stack. -/
theorem Expr.foldlM_toPostfix (e : Expr) (tail : List PostfixItem) (stack : List Subject) :
    (e.toPostfix tail).foldlM PostfixItem.take stack =
      tail.foldlM PostfixItem.take (.statement (.expression e) :: stack) := by
  induction e generalizing tail stack with
  | literal v => cases v <;> rfl
  | reference name => rfl
  | binary op left right ihl ihr =>
    rw [Expr.toPostfix, ihl, ihr, List.foldlM_cons]
    simp [PostfixItem.take, Subject.expr?]

/-- A statement is read back from its entries. -/
theorem Subject.ofPostfix?_toPostfix (s : Statement) :
    ofPostfix? s.toPostfix = some (.statement s) := by
  cases s with
  | expression e => rw [ofPostfix?, Statement.toPostfix, Expr.foldlM_toPostfix]; rfl
  | assignment target value =>
    rw [ofPostfix?, Statement.toPostfix, Expr.foldlM_toPostfix]; rfl

end PlaneCalc
