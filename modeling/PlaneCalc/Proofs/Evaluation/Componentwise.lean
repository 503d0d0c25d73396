import PlaneCalc.Proofs.Evaluation.Recursion

/-!
# Vectors are evaluated axis by axis

Every value has a component along each axis; a scalar is the same along both. Taking the components
of all literals of an expression and of all variables gives an expression on scalars for each axis,
and the two together behave as the expression on vectors does. `Splits` says how one outcome relates
to the two: a value is split into its components, a fault is met along both axes, and a zero divisor
that is blamed on one axis is met along that axis, whatever happens along the other.
-/

namespace PlaneCalc

/-! ## Components -/

/-- The component of a value along an axis; a scalar has the same along both. -/
def Value.component (a : Axis) : Value → Double
  | scalar n => n
  | vector x y =>
    match a with
    | .x => x
    | .y => y

/-- The scalar that a value is along an axis. -/
def Value.along (a : Axis) (v : Value) : Value := .scalar (v.component a)

/-- Whether a value is a vector. -/
def Value.IsVector : Value → Prop
  | scalar _ => False
  | vector _ _ => True

theorem Value.scalars_or_isVector (v w : Value) :
    (∃ m n, v = scalar m ∧ w = scalar n) ∨ v.IsVector ∨ w.IsVector := by
  cases v with
  | vector v₁ v₂ => exact .inr (.inl trivial)
  | scalar m =>
    cases w with
    | vector w₁ w₂ => exact .inr (.inr trivial)
    | scalar n => exact .inl ⟨m, n, rfl, rfl⟩

/-- The component of an operand along an axis; a foreign object has none and stays. -/
def Operand.along (a : Axis) : Operand → Operand
  | value v => value (v.along a)
  | foreign type => foreign type

/-- Every literal replaced by its component along an axis. -/
def Expr.along (a : Axis) : Expr → Expr
  | literal v => literal (v.along a)
  | reference name => reference name
  | binary op left right => binary op (left.along a) (right.along a)

namespace Bindings

/-- Every variable holds its component along an axis. -/
def along (a : Axis) (b : Bindings) : Bindings := ⟨b.entries.map fun p => (p.1, p.2.along a)⟩

/-- The bindings hold scalars and vectors, and no foreign objects. -/
def HoldsValues (b : Bindings) : Prop := ∀ p ∈ b.entries, ∃ v, p.2 = .value v

theorem find?_along (a : Axis) (b : Bindings) (name : String) :
    (b.along a).find? name = (b.find? name).map (Operand.along a) := by
  obtain ⟨entries⟩ := b
  show (entries.map _).lookup name = (entries.lookup name).map _
  induction entries with
  | nil => rfl
  | cons entry rest ih =>
    obtain ⟨n, o⟩ := entry
    rw [List.map_cons, lookup_entry_cons, lookup_entry_cons, ih]
    by_cases hn : name = n
    · rw [if_pos hn, if_pos hn]
      rfl
    · rw [if_neg hn, if_neg hn]

theorem HoldsValues.of_find? {b : Bindings} (hb : b.HoldsValues) {name : String} {o : Operand}
    (h : b.find? name = some o) : ∃ v, o = .value v := by
  obtain ⟨p, hp, rfl⟩ : ∃ p ∈ b.entries, p.2 = o := by
    obtain ⟨before, after, hsplit, _⟩ := List.lookup_eq_some_iff.mp h
    exact ⟨(name, o), by rw [hsplit]; simp, rfl⟩
  exact hb p hp

/-- A variable of such bindings is undefined or holds a value. -/
theorem HoldsValues.lookup_cases {b : Bindings} (hb : b.HoldsValues) (name : String) :
    (b.find? name = none ∧ b.lookup name = .error (.undefined name)) ∨
      ∃ v, b.find? name = some (.value v) ∧ b.lookup name = .ok (.value v) := by
  cases h : b.find? name with
  | none => exact .inl ⟨rfl, by rw [lookup, h]⟩
  | some o =>
    obtain ⟨v, rfl⟩ := hb.of_find? h
    exact .inr ⟨v, rfl, by rw [lookup, h]⟩

end Bindings

/-! ## Outcomes along both axes -/

/-- A fault that is blamed on no single axis. -/
def EvalFault.OnNoAxis : EvalFault → Prop
  | divisionByZero _ _ axis => axis = none
  | _ => True

/-- An outcome on vectors beside the outcomes along the two axes. -/
inductive Splits : Except EvalFault Operand → (Axis → Except EvalFault Operand) → Prop where
  | value {v : Value} {parts : Axis → Except EvalFault Operand}
      (h : ∀ a, parts a = .ok (.value (v.along a))) : Splits (.ok (.value v)) parts
  | fault {f : EvalFault} {parts : Axis → Except EvalFault Operand} (hf : f.OnNoAxis)
      (h : ∀ a, parts a = .error f) : Splits (.error f) parts
  | zero {operator operand : String} {a : Axis} {parts : Axis → Except EvalFault Operand}
      (h : parts a = .error (.divisionByZero operator operand none)) :
      Splits (.error (.divisionByZero operator operand (some a.name))) parts

/-- Going on after a value, along each axis with its component. -/
theorem Splits.bind {r : Except EvalFault Operand} {parts : Axis → Except EvalFault Operand}
    {next : Operand → Except EvalFault Operand}
    {nexts : Axis → Operand → Except EvalFault Operand} (h : Splits r parts)
    (hnext : ∀ v : Value,
      Splits (next (.value v)) (fun a => nexts a (.value (v.along a)))) :
    Splits (r >>= next) (fun a => parts a >>= nexts a) := by
  cases h with
  | @value v _ h =>
    have hparts : (fun a => parts a >>= nexts a) = fun a => nexts a (.value (v.along a)) := by
      funext a
      rw [h a]
      rfl
    rw [hparts]
    exact hnext v
  | @fault f _ hf h =>
    refine .fault hf fun a => ?_
    rw [h a]
    rfl
  | @zero operator operand a _ h =>
    refine .zero ?_
    show parts a >>= nexts a = _
    rw [h]
    rfl

/-! ## Operators -/

/-- The axis that a zero divisor is blamed on; a scalar is blamed as a whole. -/
def Value.blame (a : Axis) : Value → Option Axis
  | scalar _ => none
  | vector _ _ => some a

namespace Operator

variable {op : Operator} {x y : Double}

theorem combine_of_zero (h : op = .div ∧ y.isZero = true) (axis : Option Axis) :
    op.combine x y axis = .error (.divisionByZero op.text "right" (axis.map Axis.name)) :=
  if_pos h

theorem combine_of_ne_zero (h : ¬ (op = .div ∧ y.isZero = true)) (axis : Option Axis) :
    op.combine x y axis = .ok (op.onNumbers x y) :=
  if_neg h

/-- Where a vector is involved, the operator acts along the first axis and then along the second. -/
theorem onValues_of_isVector (op : Operator) {v w : Value} (h : v.IsVector ∨ w.IsVector) :
    op.onValues v w =
      op.combine (v.component .x) (w.component .x) (w.blame .x) >>= fun x =>
        op.combine (v.component .y) (w.component .y) (w.blame .y) >>= fun y =>
          .ok (.vector x y) := by
  cases v with
  | vector v₁ v₂ => cases w <;> rfl
  | scalar v =>
    cases w with
    | vector w₁ w₂ => rfl
    | scalar w => exact absurd h (by simp [Value.IsVector])

/-- Along an axis, an operator acts on the components. -/
theorem apply_along (op : Operator) (v w : Value) (a : Axis) :
    op.apply (.value (v.along a)) (.value (w.along a)) =
      op.combine (v.component a) (w.component a) none >>= fun n => .ok (.value (.scalar n)) := by
  show (op.combine (v.component a) (w.component a) none >>= fun n => .ok (Value.scalar n)) >>= _ = _
  rw [bind_assoc]
  rfl

end Operator

namespace Operator

variable {op : Operator}

theorem apply_along_of_zero {v w : Value} {a : Axis}
    (h : op = .div ∧ (w.component a).isZero = true) :
    op.apply (.value (v.along a)) (.value (w.along a)) =
      .error (.divisionByZero op.text "right" none) := by
  rw [apply_along, combine_of_zero h]
  rfl

theorem apply_along_of_ne_zero {v w : Value} {a : Axis}
    (h : ¬ (op = .div ∧ (w.component a).isZero = true)) :
    op.apply (.value (v.along a)) (.value (w.along a)) =
      .ok (.value (.scalar (op.onNumbers (v.component a) (w.component a)))) := by
  rw [apply_along, combine_of_ne_zero h]
  rfl

/-- The result of an operator is a vector exactly if one of its operands is. -/
theorem isVector_of_apply (op : Operator) {v w : Value} {o : Operand}
    (h : op.apply (.value v) (.value w) = .ok o) :
    ∃ u, o = .value u ∧ (u.IsVector ↔ v.IsVector ∨ w.IsVector) := by
  obtain ⟨u, hu, ho⟩ := bind_eq_ok.mp h
  refine ⟨u, (Except.ok.inj ho).symm, ?_⟩
  rcases v.scalars_or_isVector w with ⟨m, n, rfl, rfl⟩ | hvector
  · obtain ⟨k, _, hu⟩ := bind_eq_ok.mp hu
    rw [← Except.ok.inj hu]
    exact iff_of_false id (by simp [Value.IsVector])
  · rw [onValues_of_isVector op hvector] at hu
    obtain ⟨x, _, hu⟩ := bind_eq_ok.mp hu
    obtain ⟨y, _, hu⟩ := bind_eq_ok.mp hu
    rw [← Except.ok.inj hu]
    exact iff_of_true trivial hvector

/-- Two scalars are their own components. -/
theorem apply_splits_scalars (op : Operator) (m n : Double) :
    Splits (op.apply (.value (.scalar m)) (.value (.scalar n)))
      (fun _ => op.apply (.value (.scalar m)) (.value (.scalar n))) := by
  by_cases hzero : op = .div ∧ n.isZero = true
  · have hfault : op.apply (.value (.scalar m)) (.value (.scalar n)) =
        .error (.divisionByZero op.text "right" none) :=
      apply_along_of_zero (v := .scalar m) (w := .scalar n) (a := .x) hzero
    rw [hfault]
    exact .fault rfl fun a => rfl
  · have hvalue : op.apply (.value (.scalar m)) (.value (.scalar n)) =
        .ok (.value (.scalar (op.onNumbers m n))) :=
      apply_along_of_ne_zero (v := .scalar m) (w := .scalar n) (a := .x) hzero
    rw [hvalue]
    exact .value fun a => rfl

/-- Two values of which one is a vector: the first axis with a zero divisor is blamed, and a scalar
divisor is zero along both axes. -/
theorem apply_splits_vector (op : Operator) {v w : Value} (h : v.IsVector ∨ w.IsVector) :
    Splits (op.apply (.value v) (.value w))
      (fun a => op.apply (.value (v.along a)) (.value (w.along a))) := by
  show Splits (op.onValues v w >>= fun u => .ok (.value u)) _
  rw [onValues_of_isVector op h]
  by_cases hx : op = .div ∧ (w.component .x).isZero = true
  · rw [combine_of_zero hx]
    cases w with
    | scalar n =>
      exact .fault rfl fun a => apply_along_of_zero (by cases a <;> exact hx)
    | vector w₁ w₂ => exact .zero (a := .x) (apply_along_of_zero hx)
  · rw [combine_of_ne_zero hx]
    by_cases hy : op = .div ∧ (w.component .y).isZero = true
    · rw [combine_of_zero hy]
      cases w with
      | scalar n => exact absurd hy hx
      | vector w₁ w₂ => exact .zero (a := .y) (apply_along_of_zero hy)
    · rw [combine_of_ne_zero hy]
      refine .value fun a => ?_
      cases a with
      | x => exact apply_along_of_ne_zero hx
      | y => exact apply_along_of_ne_zero hy

/-- One operator is applied axis by axis. -/
theorem apply_splits (op : Operator) (v w : Value) :
    Splits (op.apply (.value v) (.value w))
      (fun a => op.apply (.value (v.along a)) (.value (w.along a))) := by
  rcases v.scalars_or_isVector w with ⟨m, n, rfl, rfl⟩ | hvector
  · exact apply_splits_scalars op m n
  · exact apply_splits_vector op hvector

end Operator

/-! ## Expressions -/

namespace Expr

/-- An expression is evaluated axis by axis, whatever the number of levels. -/
theorem evaluateWithin_splits {b : Bindings} (hb : b.HoldsValues) (e : Expr) (levels : Nat) :
    Splits (e.evaluateWithin b levels)
      (fun a => (e.along a).evaluateWithin (b.along a) levels) := by
  induction e generalizing levels with
  | literal v =>
    cases levels with
    | zero => exact .fault trivial fun a => rfl
    | succ levels => exact .value fun a => rfl
  | reference name =>
    cases levels with
    | zero => exact .fault trivial fun a => rfl
    | succ levels =>
      simp only [Expr.along, evaluateWithin_reference, Bindings.lookup, Bindings.find?_along]
      rcases hb.lookup_cases name with ⟨hnone, _⟩ | ⟨v, hsome, _⟩
      · rw [hnone]
        exact .fault trivial fun a => rfl
      · rw [hsome]
        exact .value fun a => rfl
  | binary op left right ihl ihr =>
    cases levels with
    | zero => exact .fault trivial fun a => rfl
    | succ levels =>
      simp only [Expr.along, evaluateWithin_binary]
      refine (ihl (levels + 1)).bind fun v => ?_
      exact (ihr levels).bind fun w => op.apply_splits v w

/-- Some literal of the expression, or some variable that it refers to, is a vector. -/
def InvolvesVector (b : Bindings) (e : Expr) : Prop :=
  (∃ v ∈ e.literals, v.IsVector) ∨
    ∃ name ∈ e.names, ∃ v, b.find? name = some (.value v) ∧ v.IsVector

theorem involvesVector_literal {b : Bindings} {v : Value} :
    (literal v).InvolvesVector b ↔ v.IsVector := by
  simp [InvolvesVector, literals, names]

theorem involvesVector_reference {b : Bindings} {name : String} {v : Value}
    (h : b.find? name = some (.value v)) : (reference name).InvolvesVector b ↔ v.IsVector := by
  simp [InvolvesVector, literals, names, h]

theorem involvesVector_binary {b : Bindings} {op : Operator} {left right : Expr} :
    (binary op left right).InvolvesVector b ↔ left.InvolvesVector b ∨ right.InvolvesVector b := by
  simp only [InvolvesVector, literals, names, List.mem_append, or_and_right, exists_or]
  exact or_or_or_comm

/-- Whatever an expression gives is a value, and a vector exactly if one is involved. -/
theorem isVector_of_evaluateWithin {b : Bindings} (hb : b.HoldsValues) {e : Expr} {levels : Nat}
    {o : Operand} (h : e.evaluateWithin b levels = .ok o) :
    ∃ v, o = .value v ∧ (v.IsVector ↔ e.InvolvesVector b) := by
  induction e generalizing levels o with
  | literal v =>
    cases levels with
    | zero => simp [evaluateWithin_zero] at h
    | succ levels =>
      rw [evaluateWithin_literal, Except.ok.injEq] at h
      exact ⟨v, h.symm, involvesVector_literal.symm⟩
  | reference name =>
    cases levels with
    | zero => simp [evaluateWithin_zero] at h
    | succ levels =>
      rw [evaluateWithin_reference] at h
      rcases hb.lookup_cases name with ⟨_, hlookup⟩ | ⟨v, hfind, hlookup⟩
      · simp [hlookup] at h
      · rw [hlookup, Except.ok.injEq] at h
        exact ⟨v, h.symm, (involvesVector_reference hfind).symm⟩
  | binary op left right ihl ihr =>
    cases levels with
    | zero => simp [evaluateWithin_zero] at h
    | succ levels =>
      rw [evaluateWithin_binary] at h
      obtain ⟨l, hl, h⟩ := bind_eq_ok.mp h
      obtain ⟨r, hr, h⟩ := bind_eq_ok.mp h
      obtain ⟨v, rfl, hv⟩ := ihl hl
      obtain ⟨w, rfl, hw⟩ := ihr hr
      obtain ⟨u, hu, hvector⟩ := op.isVector_of_apply h
      exact ⟨u, hu, by rw [hvector, hv, hw, involvesVector_binary]⟩

/-- Evaluation on vectors is evaluation on scalars along each axis. A value has the values along the
axes as its components, and is a vector exactly if one is involved. An undefined variable is met
along both axes. A zero divisor is met along the axis that it is blamed on, and along both if it is
blamed on none. And what succeeds along both axes succeeds. -/
theorem evaluate_componentwise (e : Expr) (b : Bindings) (hb : b.HoldsValues) :
    (∀ o, e.evaluate b = .ok o →
      (∀ a, (e.along a).evaluate (b.along a) = .ok (o.along a)) ∧
        ∃ v, o = .value v ∧ (v.IsVector ↔ e.InvolvesVector b)) ∧
    (∀ name, e.evaluate b = .error (.undefined name) →
      ∀ a, (e.along a).evaluate (b.along a) = .error (.undefined name)) ∧
    (∀ operator operand axis, e.evaluate b = .error (.divisionByZero operator operand axis) →
      (axis = none ∧ ∀ a, (e.along a).evaluate (b.along a) =
        .error (.divisionByZero operator operand none)) ∨
      ∃ a, axis = some a.name ∧ (e.along a).evaluate (b.along a) =
        .error (.divisionByZero operator operand none)) ∧
    ((∀ a, ∃ o, (e.along a).evaluate (b.along a) = .ok o) → ∃ o, e.evaluate b = .ok o) := by
  have hsplits : Splits (e.evaluate b) (fun a => (e.along a).evaluate (b.along a)) :=
    evaluateWithin_splits hb e _
  refine ⟨?_, ?_, ?_, ?_⟩
  · intro o ho
    refine ⟨?_, isVector_of_evaluateWithin hb ho⟩
    rw [ho] at hsplits
    cases hsplits with
    | value h => exact h
  · intro name hname
    rw [hname] at hsplits
    cases hsplits with
    | fault _ h => exact h
  · intro operator operand axis hzero
    rw [hzero] at hsplits
    cases hsplits with
    | fault hf h =>
      obtain rfl : axis = none := hf
      exact .inl ⟨rfl, h⟩
    | zero h => exact .inr ⟨_, rfl, h⟩
  · intro hparts
    generalize e.evaluate b = r at hsplits
    cases hsplits with
    | @value v _ _ => exact ⟨.value v, rfl⟩
    | fault _ h =>
      obtain ⟨o, ho⟩ := hparts .x
      simp [h .x] at ho
    | @zero _ _ a _ h =>
      obtain ⟨o, ho⟩ := hparts a
      simp [h] at ho

/-- A product, a quotient with a zero on one axis, one by a zero scalar and an undefined variable,
where `s` is two and `v` is the vector of one and zero. -/
theorem evaluate_componentwise_on_mixed_kinds :
    let zero : Double := ⟨0⟩
    let one : Double := ⟨0x3FF0000000000000⟩
    let two : Double := ⟨0x4000000000000000⟩
    let b : Bindings := ⟨[("s", .value (.scalar two)), ("v", .value (.vector one zero))]⟩
    let s := Expr.reference "s"
    let v := Expr.reference "v"
    b.HoldsValues ∧
      ((binary .mul v s).along .y).evaluate (b.along .y) = .ok (.value (.scalar (zero * two))) ∧
      (∃ o, (binary .mul v s).evaluate b = .ok o) ∧
      ((binary .div s v).along .y).evaluate (b.along .y) =
        .error (.divisionByZero "/" "right" none) ∧
      (∀ a, ((binary .div v (literal (.scalar zero))).along a).evaluate (b.along a) =
        .error (.divisionByZero "/" "right" none)) ∧
      ∀ a, ((binary .add v (reference "u")).along a).evaluate (b.along a) =
        .error (.undefined "u") := by
  intro zero one two b s v
  have hb : b.HoldsValues := by simp [b, Bindings.HoldsValues]
  have hproduct : (binary .mul v s).evaluate b = .ok (.value (.vector (one * two) (zero * two))) :=
    rfl
  have hquotient : (binary .div s v).evaluate b =
      .error (.divisionByZero "/" "right" (some Axis.y.name)) := rfl
  have hwhole : (binary .div v (literal (.scalar zero))).evaluate b =
      .error (.divisionByZero "/" "right" none) := rfl
  have hundefined : (binary .add v (reference "u")).evaluate b = .error (.undefined "u") := rfl
  obtain ⟨hvalue, _, _, hboth⟩ := evaluate_componentwise (binary .mul v s) b hb
  refine ⟨hb, (hvalue _ hproduct).1 .y, hboth fun a => ⟨_, (hvalue _ hproduct).1 a⟩, ?_, ?_, ?_⟩
  · rcases (evaluate_componentwise _ b hb).2.2.1 _ _ _ hquotient with ⟨hnone, _⟩ | ⟨a, ha, h⟩
    · simp at hnone
    · cases a with
      | x => simp [Axis.name] at ha
      | y => exact h
  · rcases (evaluate_componentwise _ b hb).2.2.1 _ _ _ hwhole with ⟨_, h⟩ | ⟨a, ha, _⟩
    · exact h
    · simp at ha
  · exact (evaluate_componentwise _ b hb).2.1 _ hundefined

end Expr

end PlaneCalc
