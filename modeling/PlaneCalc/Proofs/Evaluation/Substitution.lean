import PlaneCalc.Proofs.Evaluation.LeftToRight
import PlaneCalc.Proofs.Session.Commit

/-!
# Variables can be written out

An expression has the same outcome whether it refers to a variable or has in its place the expression
that the variable was assigned. Writing a variable out changes which operators lie on the spine and
how often the assigned expression is evaluated, but not the value by plain recursion, and it is there
that the two are compared: `value_inline` is an induction on the expression that refers to the
variable. What is read besides is the old bindings, so the assigned expression may itself refer to an
older variable of the same name.
-/

namespace PlaneCalc

namespace Expr

/-- The expression with another one in place of every reference to a variable. -/
def inline : Expr → String → Expr → Expr
  | literal v, _, _ => literal v
  | reference other, name, definition => if other = name then definition else reference other
  | binary op left right, name, definition =>
    binary op (left.inline name definition) (right.inline name definition)

/-- Writing a variable out nests no operator less deeply. -/
theorem rightNesting_le_inline (name : String) (definition e : Expr) :
    e.rightNesting ≤ (e.inline name definition).rightNesting := by
  induction e with
  | literal v => exact Nat.zero_le _
  | reference other => exact Nat.zero_le _
  | binary op left right ihl ihr =>
    simp only [inline, rightNesting]
    omega

/-- Where the assigned expression has a value, writing a variable out is recording that value. -/
theorem value_inline {b : Bindings} {definition : Expr} {v : Operand}
    (h : definition.value b = .ok v) (name : String) (e : Expr) :
    (e.inline name definition).value b = e.value (b.record name v) := by
  induction e with
  | literal w => rfl
  | reference other =>
    by_cases hname : other = name
    · rw [inline, if_pos hname, h, value, hname, Bindings.lookup_record_self]
    · rw [inline, if_neg hname, value, value, Bindings.lookup, Bindings.lookup,
        Bindings.find?_record, if_neg hname]
  | binary op left right ihl ihr => rw [inline, value, value, ihl, ihr]

theorem evaluate_inline {b : Bindings} {definition : Expr} {v : Operand}
    (h : definition.evaluate b = .ok v) {name : String} {e : Expr}
    (hdeep : (e.inline name definition).rightNesting ≤ nestingLimit) :
    (e.inline name definition).evaluate b = e.evaluate (b.record name v) := by
  have hvalue : definition.value b = .ok v := value_of_evaluateWithin h
  -- within the limit the spines do not matter, and the values by recursion can be compared
  have hshallow := (rightNesting_le_inline name definition e).trans hdeep
  rw [evaluate_eq_value b hdeep, value_inline hvalue, evaluate_eq_value _ hshallow]

end Expr

/-- Variables can be written out. An expression in which the variable is replaced by an expression that
has a value, and the expression itself with the variable set to that value, have the same value or the
same fault. So a line after an assignment has the result that the line with the variable written out
has before it, and a variable that an expression does not refer to cannot influence it. -/
theorem variable_written_out :
    (∀ (definition e : Expr) (name : String) (b : Bindings) (v : Operand),
      definition.evaluate b = .ok v →
      (e.inline name definition).rightNesting ≤ Expr.nestingLimit →
      (e.inline name definition).evaluate b = e.evaluate (b.record name v)) ∧
    (∀ (lang : Language) (b : Bindings) (assigning referring written name : String)
        (definition e : Expr) (v : Operand),
      parse lang assigning = .ok (.assignment name definition) →
      parse lang referring = .ok (.expression e) →
      parse lang written = .ok (.expression (e.inline name definition)) →
      (e.inline name definition).rightNesting ≤ Expr.nestingLimit →
      definition.evaluate b = .ok v →
      (execute lang (execute lang b assigning).bindings referring).result =
        (execute lang b written).result) ∧
    ∀ (e : Expr) (b b' : Bindings), (∀ name ∈ e.names, b'.find? name = b.find? name) →
      e.evaluate b' = e.evaluate b := by
  refine ⟨?_, ?_, ?_⟩
  · intro definition e name b v hvalue hdeep
    exact Expr.evaluate_inline hvalue hdeep
  · intro lang b assigning referring written name definition e v hassigning hreferring hwritten
      hdeep hvalue
    have hbindings : (execute lang b assigning).bindings = b.record name v := by
      rw [bindings_of_assignment hassigning, Statement.bindings_of_value hvalue]
    rw [hbindings, execute_of_parse hreferring, execute_of_parse hwritten]
    simp only [Statement.body, Expr.evaluate_inline hvalue hdeep]
  · intro e b b' h
    exact Expr.evaluateWithin_congr h (Expr.nestingLimit + 1)

/-- A variable that is assigned from its older self, and then begins a chain and divides in it: written
out, it lies on the spine in one place and is a right operand in the other. -/
theorem variable_written_out_over_older :
    let two : Value := .scalar (⟨false, ['2'], []⟩ : Numeral).toDouble
    let b : Bindings := ⟨[("x", .value two)]⟩
    let definition : Expr := .binary .sub (.reference "x") (.literal two)
    let e : Expr := .binary .add (.reference "x") (.binary .div (.literal two) (.reference "x"))
    (e.inline "x" definition).evaluate b = e.evaluate (b.record "x" (.value (.scalar ⟨0⟩))) ∧
      (execute .standard (execute .standard b "x = x - 2").bindings "x + 2 / x").result =
        (execute .standard b "(x - 2) + 2 / (x - 2)").result ∧
      (execute .standard b "(x - 2) + 2 / (x - 2)").result =
        .error (.evaluation (.divisionByZero "/" "right" none)) ∧
      e.evaluate (b.record "y" (.foreign "str")) = e.evaluate b := by
  intro two b definition e
  obtain ⟨htrees, hlines, hread⟩ := variable_written_out
  have hvalue : definition.evaluate b = .ok (.value (.scalar ⟨0⟩)) := by decide +kernel
  have hdeep : (e.inline "x" definition).rightNesting ≤ Expr.nestingLimit := by decide
  refine ⟨htrees definition e "x" b _ hvalue hdeep,
    hlines .standard b _ _ _ "x" definition e _ ?_ ?_ ?_ hdeep hvalue, ?_, hread e b _ ?_⟩
  · decide +kernel
  · decide +kernel
  · decide +kernel
  · decide +kernel
  · intro name hname
    obtain rfl : name = "x" := by simpa [e, Expr.names] using hname
    rfl

end PlaneCalc
