import PlaneCalc.Proofs.Evaluation.Recursion

/-!
# Evaluation from left to right

`Expr.value` gives an expression its value by recursion on its shape, with no spine and no limit: the
left operand, the right operand, the operator. Evaluation agrees with it wherever operators do not
nest too deeply on the right, however long the chain is. `Expr.postorder` lists the parts of an
expression in the order in which they are due, so that operands stand before their operator; of all
parts that fail, the first in this order gives the expression its fault.
-/

namespace PlaneCalc

/-- The fault that an outcome is, if it is one. -/
def faultOf {ε α : Type} : Except ε α → Option ε
  | .ok _ => none
  | .error f => some f

theorem faultOf_eq_some {ε α : Type} {r : Except ε α} {f : ε} :
    faultOf r = some f ↔ r = .error f := by
  cases r <;> simp [faultOf]

namespace Expr

/-! ## Plain recursion -/

/-- The value of an expression: its left operand first, then its right operand, then the operator. -/
def value (b : Bindings) : Expr → Except EvalFault Operand
  | literal v => .ok (.value v)
  | reference name => b.lookup name
  | binary op left right => do
    let l ← left.value b
    let r ← right.value b
    op.apply l r

/-- Levels that exceed the nesting on the right make no difference. -/
theorem evaluateWithin_eq_value (b : Bindings) {e : Expr} {levels : Nat}
    (h : e.rightNesting < levels) : e.evaluateWithin b levels = e.value b := by
  induction e generalizing levels with
  | literal v =>
    obtain ⟨levels, rfl⟩ := Nat.exists_eq_add_one_of_ne_zero (Nat.ne_zero_of_lt h)
    exact evaluateWithin_literal b levels v
  | reference name =>
    obtain ⟨levels, rfl⟩ := Nat.exists_eq_add_one_of_ne_zero (Nat.ne_zero_of_lt h)
    exact evaluateWithin_reference b levels name
  | binary op left right ihl ihr =>
    obtain ⟨levels, rfl⟩ := Nat.exists_eq_add_one_of_ne_zero (Nat.ne_zero_of_lt h)
    rw [rightNesting] at h
    -- the left operand has all the levels of the whole, the right one has one less
    have hleft : left.rightNesting < levels + 1 := by omega
    have hright : right.rightNesting < levels := by omega
    rw [evaluateWithin_binary, ihl hleft, ihr hright]
    rfl

/-- What is found within some levels is the value. -/
theorem value_of_evaluateWithin {b : Bindings} {e : Expr} {levels : Nat} {o : Operand}
    (h : e.evaluateWithin b levels = .ok o) : e.value b = .ok o := by
  induction e generalizing levels o with
  | literal v =>
    cases levels with
    | zero => nomatch h
    | succ levels => exact h
  | reference name =>
    cases levels with
    | zero => nomatch h
    | succ levels => exact (evaluateWithin_reference b levels name).symm.trans h
  | binary op left right ihl ihr =>
    cases levels with
    | zero => nomatch h
    | succ levels =>
      rw [evaluateWithin_binary] at h
      obtain ⟨l, hl, h⟩ := bind_eq_ok.mp h
      obtain ⟨r, hr, h⟩ := bind_eq_ok.mp h
      rw [value, ihl hl, ihr hr]
      exact h

theorem evaluate_eq_value (b : Bindings) {e : Expr} (h : e.rightNesting ≤ nestingLimit) :
    e.evaluate b = e.value b :=
  evaluateWithin_eq_value b (Nat.lt_succ_of_le h)

/-! ## The first fault -/

/-- The fault that a part has on its own account: a variable is not bound, or an operator refuses the
values of its operands. An operator that lacks an operand has none. -/
def ownFault (b : Bindings) : Expr → Option EvalFault
  | literal _ => none
  | reference name => if b.contains name then none else some (.undefined name)
  | binary op left right =>
    match left.value b, right.value b with
    | .ok l, .ok r => faultOf (op.apply l r)
    | _, _ => none

theorem ownFault_reference (b : Bindings) (name : String) :
    (reference name).ownFault b = faultOf (b.lookup name) := by
  rw [ownFault, Bindings.contains, Bindings.lookup]
  cases hfind : b.find? name with
  | none =>
    have hfree : name ∉ b.names := Bindings.find?_eq_none_iff.mp hfind
    simp [hfree, faultOf]
  | some o =>
    have hbound : name ∈ b.names := Bindings.mem_names_iff.mpr ⟨o, hfind⟩
    simp [hbound, faultOf]

/-- The fault of an expression is that of the first part that has one. -/
theorem findSome?_ownFault (b : Bindings) (e : Expr) :
    e.postorder.findSome? (ownFault b) = faultOf (e.value b) := by
  induction e with
  | literal v => rfl
  | reference name =>
    rw [postorder, List.findSome?_singleton, ownFault_reference]
    rfl
  | binary op left right ihl ihr =>
    rw [postorder, List.findSome?_append, List.findSome?_append, ihl, ihr,
      List.findSome?_singleton, ownFault, value]
    -- a fault of the left operand hides one of the right, and either hides one of the operator
    rcases left.value b with f | l
    · rfl
    · rcases right.value b with f | r
      · rfl
      · rfl

end Expr

/-! ## Statements -/

/-- The value of a statement and the bindings after it, by recursion on the shape of its expression. -/
def Statement.outcome (b : Bindings) : Statement → Except EvalFault Operand × Bindings
  | expression e => (e.value b, b)
  | assignment target e =>
    match e.value b with
    | .error f => (.error f, b)
    | .ok v => (.ok v, b.record target v)

theorem Statement.evaluate_eq_outcome (b : Bindings) {s : Statement}
    (h : s.body.rightNesting ≤ Expr.nestingLimit) : s.evaluate b = s.outcome b := by
  have hvalue := Expr.evaluate_eq_value b h
  cases s with
  | expression e => exact congrArg (·, b) hvalue
  | assignment target e =>
    rw [body] at hvalue
    rcases houtcome : e.value b with f | v <;> simp only [evaluate, outcome, hvalue, houtcome]

theorem Statement.fst_outcome (b : Bindings) (s : Statement) : (s.outcome b).1 = s.body.value b := by
  cases s with
  | expression e => rfl
  | assignment target e =>
    rw [outcome, body]
    cases e.value b <;> rfl

/-- Evaluation along the spine is plain recursion, whatever the variables hold: it gives the same value
or the same fault, and the same bindings afterwards. Where several parts fail, the fault is that of
the first one from left to right, operands before their operator. -/
theorem evaluate_left_to_right (s : Statement) (b : Bindings)
    (h : s.body.rightNesting ≤ Expr.nestingLimit) :
    s.evaluate b = s.outcome b ∧
      ∀ f, (s.evaluate b).1 = .error f ↔
        s.body.postorder.findSome? (Expr.ownFault b) = some f := by
  have heq := Statement.evaluate_eq_outcome b h
  refine ⟨heq, fun f => ?_⟩
  rw [heq, Statement.fst_outcome, Expr.findSome?_ownFault, faultOf_eq_some]

/-- A foreign object times a quotient by zero, and then a variable that is not bound: the quotient comes
first, before the product that would refuse the object. -/
theorem evaluate_left_to_right_of_three_faults :
    let b : Bindings := ⟨[("s", .foreign "str")]⟩
    let quotient := Expr.binary .div (.literal (.scalar ⟨0⟩)) (.literal (.scalar ⟨0⟩))
    let s := Statement.assignment "x"
      (.binary .add (.binary .mul (.reference "s") quotient) (.reference "y"))
    s.evaluate b = (.error (.divisionByZero "/" "right" none), b) ∧
      s.body.postorder.findSome? (Expr.ownFault b) =
        some (.divisionByZero "/" "right" none) := by
  intro b quotient s
  obtain ⟨heq, hfirst⟩ := evaluate_left_to_right s b (by decide)
  have houtcome : s.outcome b = (.error (.divisionByZero "/" "right" none), b) := rfl
  refine ⟨heq.trans houtcome, (hfirst _).mp ?_⟩
  rw [heq, houtcome]

end PlaneCalc
