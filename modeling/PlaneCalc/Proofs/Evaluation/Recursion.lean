import PlaneCalc.Evaluation

/-!
# Evaluation by recursion

An expression is evaluated along its left spine in a loop. Here the loop is shown to be plain
recursion: the value of an operator expression comes from the value of its left operand, with the
same levels, and the value of its right operand, with one level less. Proofs about values go by
these equations and not by the spine. The first that does says that an expression reads only the
variables it refers to.
-/

namespace PlaneCalc

/-- A computation in two steps succeeds if both do. -/
theorem bind_eq_ok {ε α β : Type} {r : Except ε α} {next : α → Except ε β} {c : β} :
    r >>= next = .ok c ↔ ∃ a, r = .ok a ∧ next a = .ok c := by
  cases r with
  | error f => simp [bind, Except.bind]
  | ok a => simp [bind, Except.bind]

/-- A computation in two steps fails with the first or with the second. -/
theorem bind_eq_error {ε α β : Type} {r : Except ε α} {next : α → Except ε β} {f : ε} :
    r >>= next = .error f ↔ r = .error f ∨ ∃ a, r = .ok a ∧ next a = .error f := by
  cases r with
  | error f => simp [bind, Except.bind]
  | ok a => simp [bind, Except.bind]

namespace Expr

/-- Links that were collected before stay behind those of the spine. -/
theorem unwind_eq_append (e : Expr) (links : List (Operator × Expr)) :
    e.unwind links = ((e.unwind []).1, (e.unwind []).2 ++ links) := by
  induction e generalizing links with
  | literal v => rfl
  | reference name => rfl
  | binary op left right ihl _ =>
    rw [unwind, unwind, ihl ((op, right) :: links), ihl [(op, right)], List.append_assoc,
      List.singleton_append]

variable (b : Bindings)

theorem evaluateWithin_zero (e : Expr) : e.evaluateWithin b 0 = .error .nestedTooDeeply := rfl

theorem evaluateWithin_literal (levels : Nat) (v : Value) :
    (literal v).evaluateWithin b (levels + 1) = .ok (.value v) := rfl

theorem evaluateWithin_reference (levels : Nat) (name : String) :
    (reference name).evaluateWithin b (levels + 1) = b.lookup name := by
  show b.lookup name >>= pure = b.lookup name
  rw [bind_pure]

/-- The left operand comes first, then the right one, then the operator. -/
theorem evaluateWithin_binary (levels : Nat) (op : Operator) (left right : Expr) :
    (binary op left right).evaluateWithin b (levels + 1) =
      left.evaluateWithin b (levels + 1) >>= fun v =>
        right.evaluateWithin b levels >>= fun w => op.apply v w := by
  rw [evaluateWithin, evaluateWithin, unwind, unwind_eq_append left [(op, right)]]
  simp only [List.foldlM_append, List.foldlM_cons, List.foldlM_nil, bind_pure, bind_assoc]

/-! ## What an expression reads -/

/-- Bindings that hold the same under the names of an expression cannot be told apart by it. -/
theorem evaluateWithin_congr {b b' : Bindings} {e : Expr}
    (h : ∀ name ∈ e.names, b'.find? name = b.find? name) (levels : Nat) :
    e.evaluateWithin b' levels = e.evaluateWithin b levels := by
  induction e generalizing levels with
  | literal v => cases levels <;> rfl
  | reference name =>
    cases levels with
    | zero => rfl
    | succ levels =>
      have hname := h name List.mem_cons_self
      rw [evaluateWithin_reference, evaluateWithin_reference, Bindings.lookup, Bindings.lookup, hname]
  | binary op left right ihl ihr =>
    cases levels with
    | zero => rfl
    | succ levels =>
      have hleft := ihl (fun name hmem => h name (List.mem_append_left _ hmem)) (levels + 1)
      have hright := ihr (fun name hmem => h name (List.mem_append_right _ hmem)) levels
      rw [evaluateWithin_binary, evaluateWithin_binary, hleft, hright]

/-- Recording a name that an expression does not refer to makes no difference to it. -/
theorem evaluate_record_of_not_mem {e : Expr} {name : String} (h : name ∉ e.names) (v : Operand) :
    e.evaluate (b.record name v) = e.evaluate b := by
  refine evaluateWithin_congr (fun other hmem => ?_) (nestingLimit + 1)
  have hother : other ≠ name := fun heq => h (heq ▸ hmem)
  rw [Bindings.find?_record, if_neg hother]

end Expr

end PlaneCalc
