import PlaneCalc.Proofs.Cursor.Reader
import PlaneCalc.Proofs.Evaluation.Componentwise
import PlaneCalc.Proofs.Session.Commit

/-!
# What can come of a line

A line gives a value or is reported with a fault. `Fault.Reported` lists the faults: the line cannot
be read, it refers to a variable that has no value, it divides by zero, or its operators are nested
too deeply.

Nothing else can happen on the way either. `executeChecked` runs a line in a world where things can
go wrong that are no faults of the line: it reads with a cursor that refuses requests, and it
computes on a machine that has no quotient by zero. It is shown to do what `execute` does, so no
request is refused and no quotient by zero is asked for.
-/

namespace PlaneCalc

/-- A computation in two steps whose faults are renamed. -/
theorem mapError_bind {ε ε' α β : Type} (r : Except ε α) (next : α → Except ε β) (g : ε → ε') :
    (r >>= next).mapError g = r.mapError g >>= fun a => (next a).mapError g := by
  cases r <;> rfl

/-- What ends with a fault does not end with a mishap. -/
theorem mapError_fault_ne_mishap {α : Type} (r : Except Fault α) (m : Mishap) :
    r.mapError Halt.fault ≠ .error (.mishap m) := by
  cases r <;> simp [Except.mapError]

/-- A fault of evaluation, as the end of a run. -/
def Halt.ofEvaluation (f : EvalFault) : Halt := .fault (.evaluation f)

/-! ## Evaluation on a machine -/

namespace Operator

/-- The operator on numbers as a machine has it, which has no quotient by zero. -/
def onMachine : Operator → Double → Double → Except Halt Double
  | div, x, y => if y.isZero then .error (.mishap .zeroDivisor) else .ok (x / y)
  | op, x, y => .ok (op.onNumbers x y)

/-- The operator on the numbers of an axis; a zero divisor is refused before the machine sees it. -/
def combineChecked (op : Operator) (x y : Double) (axis : Option Axis) : Except Halt Double :=
  if op = .div ∧ y.isZero then
    .error (.ofEvaluation (.divisionByZero op.text "right" (axis.map Axis.name)))
  else op.onMachine x y

/-- The operator on values: on two scalars, or along both axes. -/
def onValuesChecked (op : Operator) : Value → Value → Except Halt Value
  | .scalar a, .scalar b => do
    let n ← op.combineChecked a b none
    return .scalar n
  | v, w => do
    let x ← op.combineChecked (v.component .x) (w.component .x) (w.blame .x)
    let y ← op.combineChecked (v.component .y) (w.component .y) (w.blame .y)
    return .vector x y

/-- The operator on operands. -/
def applyChecked (op : Operator) : Operand → Operand → Except Halt Operand
  | .value a, .value b => do
    let v ← op.onValuesChecked a b
    return .value v
  | a, b => .error (.ofEvaluation (.unsupported op.text a.kind b.kind))

theorem onMachine_of_ne_zero {op : Operator} {x y : Double}
    (h : ¬ (op = .div ∧ y.isZero = true)) : op.onMachine x y = .ok (op.onNumbers x y) := by
  cases op with
  | div => exact if_neg fun hy => h ⟨rfl, hy⟩
  | add => rfl
  | sub => rfl
  | mul => rfl

theorem combineChecked_eq (op : Operator) (x y : Double) (axis : Option Axis) :
    op.combineChecked x y axis = (op.combine x y axis).mapError .ofEvaluation := by
  by_cases h : op = .div ∧ y.isZero = true
  · rw [combineChecked, if_pos h, combine_of_zero h]
    rfl
  · rw [combineChecked, if_neg h, combine_of_ne_zero h, onMachine_of_ne_zero h]
    rfl

theorem onValuesChecked_of_isVector (op : Operator) {v w : Value} (h : v.IsVector ∨ w.IsVector) :
    op.onValuesChecked v w =
      op.combineChecked (v.component .x) (w.component .x) (w.blame .x) >>= fun x =>
        op.combineChecked (v.component .y) (w.component .y) (w.blame .y) >>= fun y =>
          .ok (.vector x y) := by
  rw [onValuesChecked]
  · rfl
  · rintro m n rfl rfl
    simp [Value.IsVector] at h

theorem onValuesChecked_eq (op : Operator) (v w : Value) :
    op.onValuesChecked v w = (op.onValues v w).mapError .ofEvaluation := by
  rcases v.scalars_or_isVector w with ⟨m, n, rfl, rfl⟩ | hvector
  · rw [onValuesChecked, onValues, mapError_bind, combineChecked_eq]
    rfl
  · simp only [onValuesChecked_of_isVector op hvector, onValues_of_isVector op hvector,
      mapError_bind, combineChecked_eq]
    rfl

theorem applyChecked_eq (op : Operator) (l r : Operand) :
    op.applyChecked l r = (op.apply l r).mapError .ofEvaluation := by
  cases l with
  | foreign type => rfl
  | value v =>
    cases r with
    | foreign type => rfl
    | value w =>
      rw [applyChecked, apply, mapError_bind, onValuesChecked_eq]
      rfl

end Operator

namespace Expr

/-- The value of an expression whose operators nest less than `levels` deep on the right. -/
def evaluateChecked (b : Bindings) : Nat → Expr → Except Halt Operand
  | 0, _ => .error (.ofEvaluation .nestedTooDeeply)
  | _ + 1, literal v => .ok (.value v)
  | _ + 1, reference name => (b.lookup name).mapError .ofEvaluation
  | levels + 1, binary op left right => do
    let v ← evaluateChecked b (levels + 1) left
    let w ← evaluateChecked b levels right
    op.applyChecked v w

theorem evaluateChecked_eq (b : Bindings) (e : Expr) (levels : Nat) :
    e.evaluateChecked b levels = (e.evaluateWithin b levels).mapError .ofEvaluation := by
  induction e generalizing levels with
  | literal v => cases levels <;> rfl
  | reference name =>
    cases levels with
    | zero => rfl
    | succ levels => rw [evaluateChecked, evaluateWithin_reference]
  | binary op left right ihl ihr =>
    cases levels with
    | zero => rfl
    | succ levels =>
      simp only [evaluateChecked, evaluateWithin_binary, mapError_bind, ihl, ihr,
        Operator.applyChecked_eq]

end Expr

/-! ## The faults of an expression -/

/-- The faults that evaluating an expression within so many levels can end with, each with its
reason: a variable that is referred to has no value, the value of a divisor is zero along the axis
that is blamed, or operators are nested too deeply. -/
inductive EvalFault.Arises (b : Bindings) (levels : Nat) (e : Expr) : EvalFault → Prop where
  | undefined {name : String} (hpart : .reference name ∈ e.postorder)
      (hfree : b.find? name = none) : Arises b levels e (.undefined name)
  | divisionByZero {left right : Expr} (hpart : .binary .div left right ∈ e.postorder) {within : Nat}
      {w : Value} (hvalue : right.evaluateWithin b within = .ok (.value w)) {a : Axis}
      (hzero : (w.component a).isZero = true) :
      Arises b levels e
        (.divisionByZero Operator.div.text "right" ((w.blame a).map Axis.name))
  | nestedTooDeeply (hdeep : levels ≤ e.rightNesting) : Arises b levels e .nestedTooDeeply

/-- The faults of an operand are faults of the expression. -/
theorem EvalFault.Arises.mono {b : Bindings} {levels levels' : Nat} {e e' : Expr} {f : EvalFault}
    (h : f.Arises b levels e) (hparts : ∀ part ∈ e.postorder, part ∈ e'.postorder)
    (hdeep : levels ≤ e.rightNesting → levels' ≤ e'.rightNesting) : f.Arises b levels' e' := by
  cases h with
  | undefined hpart hfree => exact .undefined (hparts _ hpart) hfree
  | divisionByZero hpart hvalue hzero => exact .divisionByZero (hparts _ hpart) hvalue hzero
  | nestedTooDeeply h => exact .nestedTooDeeply (hdeep h)

namespace Operator

variable {op : Operator} {f : EvalFault}

theorem combine_eq_error {x y : Double} {axis : Option Axis} (h : op.combine x y axis = .error f) :
    (op = .div ∧ y.isZero = true) ∧
      f = .divisionByZero Operator.div.text "right" (axis.map Axis.name) := by
  by_cases hzero : op = .div ∧ y.isZero = true
  · rw [combine_of_zero hzero, Except.error.injEq, hzero.1] at h
    exact ⟨hzero, h.symm⟩
  · rw [combine_of_ne_zero hzero] at h
    nomatch h

/-- On values, an operator fails only where it divides by a zero. -/
theorem apply_eq_error {v w : Value} (h : op.apply (.value v) (.value w) = .error f) :
    ∃ a, (op = .div ∧ (w.component a).isZero = true) ∧
      f = .divisionByZero Operator.div.text "right" ((w.blame a).map Axis.name) := by
  have hvalues : op.onValues v w = .error f := by
    rcases bind_eq_error.mp h with hfault | ⟨u, _, hu⟩
    · exact hfault
    · nomatch hu
  rcases v.scalars_or_isVector w with ⟨m, n, rfl, rfl⟩ | hvector
  · rcases bind_eq_error.mp hvalues with hn | ⟨k, _, hk⟩
    · exact ⟨.x, combine_eq_error hn⟩
    · nomatch hk
  · rw [onValues_of_isVector op hvector] at hvalues
    rcases bind_eq_error.mp hvalues with hx | ⟨x, _, hrest⟩
    · exact ⟨.x, combine_eq_error hx⟩
    · rcases bind_eq_error.mp hrest with hy | ⟨y, _, hpair⟩
      · exact ⟨.y, combine_eq_error hy⟩
      · nomatch hpair

end Operator

namespace Expr

variable {b : Bindings} {levels : Nat} {f : EvalFault}

theorem arises_of_evaluateWithin_zero {e : Expr} (h : e.evaluateWithin b 0 = .error f) :
    f.Arises b 0 e := by
  obtain rfl := Except.error.inj h
  exact .nestedTooDeeply (Nat.zero_le _)

/-- Where the bindings hold values, operands are values too, so no other fault is met. -/
theorem arises_of_evaluateWithin (hb : b.HoldsValues) {e : Expr}
    (h : e.evaluateWithin b levels = .error f) : f.Arises b levels e := by
  induction e generalizing levels with
  | literal v =>
    cases levels with
    | zero => exact arises_of_evaluateWithin_zero h
    | succ levels => nomatch h
  | reference name =>
    cases levels with
    | zero => exact arises_of_evaluateWithin_zero h
    | succ levels =>
      rw [evaluateWithin_reference] at h
      rcases hb.lookup_cases name with ⟨hfree, hlookup⟩ | ⟨v, _, hlookup⟩
      · rw [hlookup, Except.error.injEq] at h
        subst h
        exact .undefined (mem_postorder_self (.reference name)) hfree
      · simp [hlookup] at h
  | binary op left right ihl ihr =>
    cases levels with
    | zero => exact arises_of_evaluateWithin_zero h
    | succ levels =>
      rw [evaluateWithin_binary] at h
      rcases bind_eq_error.mp h with hleft | ⟨l, hl, h⟩
      · refine (ihl hleft).mono (fun part hpart => by simp [postorder, hpart]) fun hdeep => ?_
        rw [rightNesting]
        omega
      rcases bind_eq_error.mp h with hright | ⟨r, hr, h⟩
      · -- a right operand has one level less and lies one step deeper
        refine (ihr hright).mono (fun part hpart => by simp [postorder, hpart]) fun hdeep => ?_
        rw [rightNesting]
        omega
      obtain ⟨v, rfl, _⟩ := isVector_of_evaluateWithin hb hl
      obtain ⟨w, rfl, _⟩ := isVector_of_evaluateWithin hb hr
      obtain ⟨a, ⟨rfl, hzero⟩, rfl⟩ := Operator.apply_eq_error h
      exact .divisionByZero (mem_postorder_self (.binary .div left right)) hr hzero

end Expr

/-! ## Lines -/

/-- A line run with a cursor and on a machine. -/
def executeChecked (lang : Language) (b : Bindings) (line : String) : Except Halt Operand := do
  match ← (Walk.statement lang Grammar.groupLimit (.ofLine line)).1 with
  | .expression e => e.evaluateChecked b (Expr.nestingLimit + 1)
  | .assignment target value =>
    let v ← value.evaluateChecked b (Expr.nestingLimit + 1)
    ((b.record target v).lookup target).mapError .ofEvaluation

/-- The faults that a line can be reported with. -/
inductive Fault.Reported (lang : Language) (b : Bindings) (line : String) : Fault → Prop where
  | reading {f : SyntaxFault} (hread : parse lang line = .error (.reading f))
      (hcategory : f.diagnostic.category ∈
        [Category.expressionSyntax, .malformedNumber, .invalidStatement]) :
      Reported lang b line (.reading f)
  | evaluation {s : Statement} {f : EvalFault} (hread : parse lang line = .ok s)
      (harises : f.Arises b (Expr.nestingLimit + 1) s.body) : Reported lang b line (.evaluation f)

theorem SyntaxCause.OfLine.category_mem {cause : SyntaxCause} (h : cause.OfLine) :
    cause.category ∈ [Category.expressionSyntax, .malformedNumber, .invalidStatement] := by
  cases cause <;> simp_all [OfLine, category]

/-- A line is run with a cursor and on a machine as it is without them. -/
theorem executeChecked_eq (lang : Language) (b : Bindings) (line : String) :
    executeChecked lang b line = (execute lang b line).result.mapError .fault := by
  rw [executeChecked, Walk.statement_ofLine]
  cases hread : parse lang line with
  | error f =>
    rw [execute_eq, hread]
    rfl
  | ok s =>
    rw [execute_of_parse hread]
    cases s with
    | expression e =>
      show e.evaluateChecked b (Expr.nestingLimit + 1) = ((e.evaluate b).mapError _).mapError _
      rw [Expr.evaluateChecked_eq, ← Expr.evaluate]
      cases e.evaluate b <;> rfl
    | assignment target value =>
      show value.evaluateChecked b (Expr.nestingLimit + 1) >>= _ =
        ((value.evaluate b).mapError _).mapError _
      rw [Expr.evaluateChecked_eq, ← Expr.evaluate]
      cases value.evaluate b with
      | error f => rfl
      | ok v =>
        show ((b.record target v).lookup target).mapError _ = _
        rw [Bindings.lookup_record_self]
        rfl

/-- What is reported of a line that cannot be read lies in the line. -/
theorem reported_of_parse_error {lang : Language} {line : String} {f : Fault}
    (h : parse lang line = .error f) (b : Bindings) : f.Reported lang b line := by
  obtain ⟨cause, rest, hfailed, rfl⟩ := Grammar.parse_eq_error_iff.mp h
  exact .reading h (Walk.ofLine_of_line_failed hfailed).category_mem

/-- A line gives a value or is reported with a fault, and nothing goes wrong on the way. Against
bindings that hold scalars and vectors the outcome is a scalar, a vector or one of the faults in
`Fault.Reported`. With a cursor that refuses requests outside the line, loops that may run out of
rounds, texts that may be no numerals and a machine that has no quotient by zero, the outcome is
still the same, and never a mishap. -/
theorem execute_value_or_reported (lang : Language) (b : Bindings) (hb : b.HoldsValues)
    (line : String) :
    ((∃ v, (execute lang b line).result = .ok (.value v)) ∨
      ∃ f, (execute lang b line).result = .error f ∧ f.Reported lang b line) ∧
    executeChecked lang b line = (execute lang b line).result.mapError .fault ∧
    ∀ m, executeChecked lang b line ≠ .error (.mishap m) := by
  have hchecked := executeChecked_eq lang b line
  refine ⟨?_, hchecked, ?_⟩
  · cases hread : parse lang line with
    | error f =>
      refine .inr ⟨f, ?_, reported_of_parse_error hread b⟩
      rw [execute_eq, hread]
    | ok s =>
      rw [execute_of_parse hread]
      cases hvalue : s.body.evaluate b with
      | error f =>
        exact .inr ⟨.evaluation f, rfl, .evaluation hread (Expr.arises_of_evaluateWithin hb hvalue)⟩
      | ok o =>
        obtain ⟨v, rfl, _⟩ := Expr.isVector_of_evaluateWithin hb hvalue
        exact .inl ⟨v, rfl⟩
  · rw [hchecked]
    exact mapError_fault_ne_mishap _

/-- A quotient by a vector with a zero on its second axis. -/
theorem execute_value_or_reported_on_zero_axis :
    let one := (⟨false, ['1'], []⟩ : Numeral).toDouble
    let b : Bindings := ⟨[("v", .value (.vector one ⟨0⟩))]⟩
    b.HoldsValues ∧
      executeChecked .standard b "1 / v" =
        .error (.fault (.evaluation (.divisionByZero "/" "right" (some "y")))) ∧
      Fault.Reported .standard b "1 / v"
        (.evaluation (.divisionByZero "/" "right" (some "y"))) := by
  intro one b
  have hb : b.HoldsValues := by simp [b, Bindings.HoldsValues]
  have hresult : (execute .standard b "1 / v").result =
      .error (.evaluation (.divisionByZero "/" "right" (some "y"))) := by decide +kernel
  obtain ⟨houtcome, hchecked, _⟩ := execute_value_or_reported .standard b hb "1 / v"
  rw [hresult] at hchecked houtcome
  refine ⟨hb, hchecked, ?_⟩
  rcases houtcome with ⟨v, hv⟩ | ⟨f, hf, hreported⟩
  · simp at hv
  · rwa [← Except.error.inj hf] at hreported

end PlaneCalc
