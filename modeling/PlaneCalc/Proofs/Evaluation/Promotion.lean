import PlaneCalc.Proofs.Evaluation.Componentwise

/-!
# The promotion table

Which operation a text stands for is a table of four entries, and what it does to values is one rule:
two scalars give a scalar, and every other pair gives a vector by acting along each axis, where a
scalar is the same along both (`Value.broadcast`). The operands keep their order. Division looks at the
right operand first and blames its first zero (`Value.FirstZero`).

An unknown operator and a foreign operand are refused before any number is looked at, so a zero divisor
beside one of them is never blamed.
-/

namespace PlaneCalc

namespace Double

/-- The two zeros. -/
def zeros : List Double := [⟨0⟩, ⟨0x8000000000000000⟩]

/-- A number is zero by its bits: all of them are clear, except perhaps the sign. -/
theorem isZero_iff_mem_zeros {x : Double} : x.isZero = true ↔ x ∈ zeros := by
  obtain ⟨bits⟩ := x
  have hbits : bits.toNat < 2 ^ 64 := bits.toNat_lt
  rw [isZero, decide_eq_true_iff, magnitude, signWeight]
  simp only [zeros, List.mem_cons, List.not_mem_nil, or_false, Double.mk.injEq,
    ← UInt64.toNat_inj, UInt64.toNat_ofNat]
  omega

/-- Neither an infinity nor a NaN is a zero. -/
theorem not_mem_zeros_of_not_finite {x : Double} (h : x.isFinite = false) : x ∉ zeros := by
  intro hmem
  rw [← isZero_iff_mem_zeros, isZero, decide_eq_true_iff] at hmem
  rw [isFinite, hmem] at h
  exact absurd h (by decide)

/-- The operation on numbers that a text stands for. -/
def operation? : String → Option (Double → Double → Double)
  | "+" => some (· + ·)
  | "-" => some (· - ·)
  | "*" => some (· * ·)
  | "/" => some (· / ·)
  | _ => none

theorem operation?_eq_none {text : String} :
    operation? text = none ↔ text ∉ ["+", "-", "*", "/"] := by
  unfold operation?
  split <;> simp_all

end Double

open Double

/-! ## Broadcasting -/

namespace Value

/-- An operation on numbers carried over to values: on two scalars as it is, and along each axis where
a vector is involved. -/
def broadcast (f : Double → Double → Double) : Value → Value → Value
  | scalar m, scalar n => scalar (f m n)
  | v, w => vector (f (v.component .x) (w.component .x)) (f (v.component .y) (w.component .y))

/-- Where a divisor is zero first: as a whole if it is a scalar, and along the first axis with a zero
component if it is a vector. -/
inductive FirstZero : Value → Option Axis → Prop where
  | scalar {n : Double} (h : n ∈ zeros) : FirstZero (scalar n) none
  | x {x y : Double} (hx : x ∈ zeros) : FirstZero (vector x y) (some .x)
  | y {x y : Double} (hx : x ∉ zeros) (hy : y ∈ zeros) : FirstZero (vector x y) (some .y)

/-- A divisor has a first zero exactly if it has a zero. -/
theorem exists_firstZero_iff {w : Value} :
    (∃ axis, w.FirstZero axis) ↔ ∃ a, w.component a ∈ zeros := by
  constructor
  · rintro ⟨_, h⟩
    cases h with
    | scalar h => exact ⟨.x, h⟩
    | x hx => exact ⟨.x, hx⟩
    | y _ hy => exact ⟨.y, hy⟩
  · rintro ⟨a, ha⟩
    cases w with
    | scalar n => exact ⟨none, .scalar ha⟩
    | vector x y =>
      by_cases hx : x ∈ zeros
      · exact ⟨some .x, .x hx⟩
      · cases a with
        | x => exact absurd ha hx
        | y => exact ⟨some .y, .y hx ha⟩

theorem broadcast_of_isVector (f : Double → Double → Double) {v w : Value}
    (h : v.IsVector ∨ w.IsVector) :
    v.broadcast f w =
      .vector (f (v.component .x) (w.component .x)) (f (v.component .y) (w.component .y)) := by
  cases v with
  | vector v₁ v₂ => rfl
  | scalar m =>
    cases w with
    | vector w₁ w₂ => rfl
    | scalar n => exact absurd h (by simp [IsVector])

end Value

/-- The fault without the axis that a division blames. -/
def EvalFault.withoutAxis : EvalFault → EvalFault
  | divisionByZero operator operand _ => divisionByZero operator operand none
  | f => f

namespace Operator

theorem ofText?_eq_some {text : String} {op : Operator} (h : ofText? text = some op) :
    text = op.text := by
  unfold ofText? at h
  split at h
  · rename_i c hc
    have hsymbol : op.symbol = c := by simpa using List.find?_some h
    rw [← String.toList_inj, hc, Operator.text, hsymbol]
    simp
  · nomatch h

/-- The four texts stand for the four operators, each with its operation. -/
theorem operation?_eq_map (text : String) : operation? text = (ofText? text).map onNumbers := by
  cases h : ofText? text with
  | some op =>
    obtain rfl := ofText?_eq_some h
    cases op <;> rfl
  | none =>
    refine operation?_eq_none.mpr fun hmem => ?_
    obtain ⟨op, rfl⟩ : ∃ op : Operator, text = op.text := by
      simp only [List.mem_cons, List.not_mem_nil, or_false] at hmem
      rcases hmem with rfl | rfl | rfl | rfl
      · exact ⟨.add, rfl⟩
      · exact ⟨.sub, rfl⟩
      · exact ⟨.mul, rfl⟩
      · exact ⟨.div, rfl⟩
    simp at h

theorem exists_of_operation? {text : String} {f : Double → Double → Double}
    (h : operation? text = some f) : ∃ op : Operator, text = op.text ∧ f = op.onNumbers := by
  rw [operation?_eq_map] at h
  obtain ⟨op, hop, rfl⟩ := Option.map_eq_some_iff.mp h
  exact ⟨op, ofText?_eq_some hop, rfl⟩

theorem text_eq_slash {op : Operator} : op.text = "/" ↔ op = .div := by
  constructor
  · intro h
    have hread := ofText?_text op
    rw [h] at hread
    exact (Option.some.inj (hread.symm.trans (ofText?_text .div)))
  · rintro rfl
    rfl

theorem applyText_text (op : Operator) (left right : Operand) :
    applyText op.text left right = op.apply left right := by
  rw [applyText, ofText?_text]

theorem apply_value (op : Operator) (v w : Value) :
    op.apply (.value v) (.value w) = op.onValues v w >>= fun u => .ok (Operand.value u) :=
  rfl

/-! ## Division blames, everything else is broadcast -/

/-- The first zero of a divisor is blamed. -/
theorem apply_div_of_firstZero (v : Value) {w : Value} {axis : Option Axis}
    (h : w.FirstZero axis) :
    div.apply (.value v) (.value w) =
      .error (.divisionByZero "/" "right" (axis.map Axis.name)) := by
  have hzero : ∀ {n : Double}, n ∈ zeros → (div = div ∧ n.isZero = true) :=
    fun hn => ⟨rfl, isZero_iff_mem_zeros.mpr hn⟩
  rw [apply_value]
  cases h with
  | scalar hn =>
    cases v with
    | scalar m => rw [onValues, combine_of_zero (hzero hn)]; rfl
    | vector x y => rw [onValues, combine_of_zero (hzero hn)]; rfl
  | @x x y hx =>
    have hvector : (Value.vector x y).IsVector := trivial
    rw [onValues_of_isVector div (.inr hvector)]
    show (div.combine (v.component .x) x (some .x) >>= _) >>= _ = _
    rw [combine_of_zero (hzero hx)]
    rfl
  | @y x y hx hy =>
    have hvector : (Value.vector x y).IsVector := trivial
    have hfirst : ¬ (div = div ∧ x.isZero = true) := fun h => hx (isZero_iff_mem_zeros.mp h.2)
    rw [onValues_of_isVector div (.inr hvector)]
    show (div.combine (v.component .x) x (some .x) >>= _) >>= _ = _
    rw [combine_of_ne_zero hfirst]
    show (div.combine (v.component .y) y (some .y) >>= _) >>= _ = _
    rw [combine_of_zero (hzero hy)]
    rfl

/-- Without a zero to divide by, the operation is broadcast. -/
theorem apply_of_nonzero {op : Operator} (v : Value) {w : Value}
    (h : op = .div → ∀ a, w.component a ∉ zeros) :
    op.apply (.value v) (.value w) = .ok (.value (v.broadcast op.onNumbers w)) := by
  have hne : ∀ a, ¬ (op = .div ∧ (w.component a).isZero = true) :=
    fun a ⟨hop, hzero⟩ => h hop a (isZero_iff_mem_zeros.mp hzero)
  rcases v.scalars_or_isVector w with ⟨m, n, rfl, rfl⟩ | hvector
  · exact apply_along_of_ne_zero (v := .scalar m) (w := .scalar n) (a := .x) (hne .x)
  · rw [apply_value, onValues_of_isVector op hvector, combine_of_ne_zero (hne .x),
      combine_of_ne_zero (hne .y), Value.broadcast_of_isVector _ hvector]
    rfl

/-- On two values, every outcome is one of the two. -/
theorem apply_values (op : Operator) (v w : Value) :
    (∃ axis, op = .div ∧ w.FirstZero axis ∧
      op.apply (.value v) (.value w) =
        .error (.divisionByZero "/" "right" (axis.map Axis.name))) ∨
    (op = .div → ∀ a, w.component a ∉ zeros) ∧
      op.apply (.value v) (.value w) = .ok (.value (v.broadcast op.onNumbers w)) := by
  by_cases h : op = .div ∧ ∃ a, w.component a ∈ zeros
  · obtain ⟨rfl, hzero⟩ := h
    obtain ⟨axis, haxis⟩ := Value.exists_firstZero_iff.mpr hzero
    exact .inl ⟨axis, rfl, haxis, apply_div_of_firstZero v haxis⟩
  · have hnonzero : op = .div → ∀ a, w.component a ∉ zeros :=
      fun hop a ha => h ⟨hop, a, ha⟩
    exact .inr ⟨hnonzero, apply_of_nonzero v hnonzero⟩

theorem apply_eq_divisionByZero_iff {op : Operator} {v w : Value} {o operand : String}
    {axis : Option String} :
    op.apply (.value v) (.value w) = .error (.divisionByZero o operand axis) ↔
      (op = .div ∧ ∃ a, w.FirstZero a ∧ axis = a.map Axis.name) ∧
        o = op.text ∧ operand = "right" := by
  constructor
  · intro h
    rcases apply_values op v w with ⟨a, rfl, ha, hfault⟩ | ⟨_, hvalue⟩
    · rw [hfault, Except.error.injEq, EvalFault.divisionByZero.injEq] at h
      obtain ⟨rfl, rfl, rfl⟩ := h
      exact ⟨⟨rfl, a, ha, rfl⟩, rfl, rfl⟩
    · rw [hvalue] at h
      nomatch h
  · rintro ⟨⟨rfl, a, ha, rfl⟩, rfl, rfl⟩
    exact apply_div_of_firstZero v ha

/-- A scalar beside a vector divisor counts as the vector with two equal components. -/
theorem apply_scalar_left (op : Operator) (s x y : Double) :
    op.apply (.value (.scalar s)) (.value (.vector x y)) =
      op.apply (.value (.vector s s)) (.value (.vector x y)) :=
  rfl

/-- So does a scalar on the right, except that it is blamed without an axis. -/
theorem apply_scalar_right (op : Operator) (s x y : Double) :
    op.apply (.value (.vector x y)) (.value (.scalar s)) =
      (op.apply (.value (.vector x y)) (.value (.vector s s))).mapError EvalFault.withoutAxis := by
  by_cases hzero : op = .div ∧ s ∈ zeros
  · obtain ⟨rfl, hs⟩ := hzero
    rw [apply_div_of_firstZero _ (.scalar hs), apply_div_of_firstZero _ (.x hs)]
    rfl
  · have hscalar : op = .div → ∀ a, (Value.scalar s).component a ∉ zeros :=
      fun hop a ha => hzero ⟨hop, ha⟩
    have hvector : op = .div → ∀ a, (Value.vector s s).component a ∉ zeros := by
      intro hop a ha
      cases a <;> exact hzero ⟨hop, ha⟩
    rw [apply_of_nonzero _ hscalar, apply_of_nonzero _ hvector]
    rfl

/-! ## The table -/

/-- An unknown operator or a foreign operand. -/
def Refuses (operator : String) (left right : Operand) : Prop :=
  operator ∉ ["+", "-", "*", "/"] ∨ (∃ type, left = .foreign type) ∨ ∃ type, right = .foreign type

/-- Whatever is refused is refused by the names of the operator and of both kinds. -/
theorem applyText_of_refuses {operator : String} {left right : Operand}
    (h : Refuses operator left right) :
    applyText operator left right = .error (.unsupported operator left.kind right.kind) := by
  cases hop : ofText? operator with
  | none => rw [applyText, hop]
  | some op =>
    obtain rfl := ofText?_eq_some hop
    have hknown : operation? op.text ≠ none := by
      rw [operation?_eq_map, hop]
      simp
    rw [applyText_text]
    rcases h with hunknown | ⟨type, rfl⟩ | ⟨type, rfl⟩
    · exact absurd (operation?_eq_none.mpr hunknown) hknown
    · rfl
    · cases left <;> rfl

/-- What is not refused is a known operation on two values. -/
theorem values_of_not_refuses {operator : String} {left right : Operand}
    (h : ¬ Refuses operator left right) :
    ∃ (op : Operator) (v w : Value), operator = op.text ∧ left = .value v ∧ right = .value w := by
  simp only [Refuses, not_or, not_exists, ← operation?_eq_none] at h
  obtain ⟨hknown, hleft, hright⟩ := h
  obtain ⟨f, hf⟩ := Option.ne_none_iff_exists'.mp hknown
  obtain ⟨op, hop, -⟩ := exists_of_operation? hf
  cases left with
  | foreign type => exact absurd rfl (hleft type)
  | value v =>
    cases right with
    | foreign type => exact absurd rfl (hright type)
    | value w => exact ⟨op, v, w, hop, rfl, rfl⟩

/-- The promotion table. An operator is unsupported exactly if it is none of the four or an operand is
neither a scalar nor a vector, whatever the numbers are. Otherwise a division by a zero is blamed on
the right operand, without an axis if that is a scalar and on its first zero axis if it is a vector,
and everything else has the result of the operation on numbers, broadcast with its operands in order.
So a scalar on either side of a vector stands for the vector with two equal components, except that a
scalar divisor is blamed without an axis. -/
theorem applied_by_broadcast (operator : String) (left right : Operand) :
    (∀ o l r, applyText operator left right = .error (.unsupported o l r) ↔
      Refuses operator left right ∧ o = operator ∧ l = left.kind ∧ r = right.kind) ∧
    (∀ f v w, operation? operator = some f → left = .value v → right = .value w →
      (∀ o operand axis, applyText operator left right = .error (.divisionByZero o operand axis) ↔
        (operator = "/" ∧ ∃ a, w.FirstZero a ∧ axis = a.map Axis.name) ∧
          o = operator ∧ operand = "right") ∧
      ((∃ o operand axis, applyText operator left right =
        .error (.divisionByZero o operand axis)) ↔ operator = "/" ∧ ∃ a, w.component a ∈ zeros) ∧
      (¬ (operator = "/" ∧ ∃ a, w.component a ∈ zeros) →
        applyText operator left right = .ok (.value (v.broadcast f w)))) ∧
    (∀ f, operation? operator = some f → ∀ s x y,
      applyText operator (.value (.scalar s)) (.value (.vector x y)) =
        applyText operator (.value (.vector s s)) (.value (.vector x y)) ∧
      applyText operator (.value (.vector x y)) (.value (.scalar s)) =
        (applyText operator (.value (.vector x y)) (.value (.vector s s))).mapError
          EvalFault.withoutAxis) ∧
    ∀ n : Double, n.isFinite = false → n ∉ zeros := by
  refine ⟨fun o l r => ?_, ?_, ?_, fun n => not_mem_zeros_of_not_finite⟩
  · by_cases hrefuses : Refuses operator left right
    · simp [applyText_of_refuses hrefuses, hrefuses, eq_comm]
    · obtain ⟨op, v, w, rfl, rfl, rfl⟩ := values_of_not_refuses hrefuses
      rw [applyText_text]
      rcases apply_values op v w with ⟨axis, _, _, hfault⟩ | ⟨_, hvalue⟩
      · simp [hfault, hrefuses]
      · simp [hvalue, hrefuses]
  · rintro f v w hf rfl rfl
    obtain ⟨op, rfl, rfl⟩ := exists_of_operation? hf
    rw [applyText_text, text_eq_slash]
    refine ⟨fun o operand axis => apply_eq_divisionByZero_iff, ?_,
      fun hnonzero => apply_of_nonzero v ?_⟩
    · simp only [apply_eq_divisionByZero_iff, ← Value.exists_firstZero_iff]
      constructor
      · rintro ⟨_, _, _, ⟨hop, a, ha, _⟩, _⟩
        exact ⟨hop, a, ha⟩
      · rintro ⟨hop, a, ha⟩
        exact ⟨_, _, _, ⟨hop, a, ha, rfl⟩, rfl, rfl⟩
    · intro hop a ha
      exact hnonzero ⟨hop, a, ha⟩
  · intro f hf s x y
    obtain ⟨op, rfl, -⟩ := exists_of_operation? hf
    simp only [applyText_text]
    exact ⟨apply_scalar_left op s x y, apply_scalar_right op s x y⟩

/-- Dividing by a vector whose second component is the negative zero blames the second axis, and so
does a scalar on the left; a scalar zero on the right is blamed without an axis. -/
theorem applied_by_broadcast_to_negative_zero :
    let left := Operand.value (.scalar ⟨0x4000000000000000⟩)
    let right := Operand.value (.vector ⟨0x3FF0000000000000⟩ ⟨0x8000000000000000⟩)
    operation? "/" = some (· / ·) ∧
      applyText "/" left right = .error (.divisionByZero "/" "right" (some "y")) ∧
      applyText "/" right (.value (.scalar ⟨0⟩)) =
        .error (.divisionByZero "/" "right" none) ∧
      applyText "//" left right = .error (.unsupported "//" "scalar" "vector") := by
  intro left right
  have hdivision : operation? "/" = some (· / ·) := rfl
  obtain ⟨_, hvalues, _⟩ := applied_by_broadcast "/" left right
  obtain ⟨_, hscalar, _⟩ := applied_by_broadcast "/" right (.value (.scalar ⟨0⟩))
  obtain ⟨hunknown, _⟩ := applied_by_broadcast "//" left right
  have hsecond : (Value.vector ⟨0x3FF0000000000000⟩ ⟨0x8000000000000000⟩).FirstZero (some .y) :=
    .y (by decide) (by decide)
  refine ⟨hdivision, ?_, ?_, ?_⟩
  · exact ((hvalues _ _ _ hdivision rfl rfl).1 _ _ _).mpr ⟨⟨rfl, _, hsecond, rfl⟩, rfl, rfl⟩
  · exact ((hscalar _ _ _ hdivision rfl rfl).1 _ _ _).mpr
      ⟨⟨rfl, _, .scalar (by decide), rfl⟩, rfl, rfl⟩
  · exact (hunknown _ _ _).mpr ⟨.inl (by decide), rfl, rfl, rfl⟩

end Operator

end PlaneCalc
