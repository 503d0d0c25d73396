import Mathlib.Algebra.Order.Field.Rat
import Mathlib.Data.Rat.Cast.Order
import Mathlib.Tactic.FieldSimp
import Mathlib.Tactic.Positivity
import Mathlib.Tactic.Ring
import PlaneCalc.Decimal.Shortest

/-!
# Rounding keeps what it can represent

The nearest binary64 number of a quotient depends on the quotient alone, not on how it is written
(`nearest_congr`), and a quotient that is the size of a finite number is rounded to that number
(`nearest_units`). So a decimal of the same sign and size as a finite number is read as that number,
whatever its coefficient and exponent are. Sizes are rational numbers here; the definitions count units
and never leave the natural numbers.
-/

namespace PlaneCalc

namespace Double

/-! ## Quotients -/

/-- Rounding does not see a factor that numerator and denominator share. -/
theorem roundQuotient_mul (num den : Nat) {c : Nat} (hc : 0 < c) :
    roundQuotient (num * c) (den * c) = roundQuotient num den := by
  have hmod : 2 * (num * c % (den * c)) = 2 * (num % den) * c := by
    rw [Nat.mul_mod_mul_right, Nat.mul_assoc]
  unfold roundQuotient
  simp only [Nat.mul_div_mul_right _ _ hc, hmod, Nat.mul_lt_mul_right hc]

theorem nearest_mul (num den : Nat) {c : Nat} (hc : 0 < c) :
    nearest (num * c) (den * c) = nearest num den := by
  unfold nearest
  simp only [Nat.mul_div_mul_right _ _ hc, Nat.mul_right_comm den c, roundQuotient_mul _ _ hc]

/-- Equal quotients are rounded alike. -/
theorem nearest_congr {num den num' den' : Nat} (hden : 0 < den) (hden' : 0 < den')
    (h : num * den' = num' * den) : nearest num den = nearest num' den' :=
  calc nearest num den = nearest (num * den') (den * den') := (nearest_mul num den hden').symm
    _ = nearest (num' * den) (den' * den) := by rw [h, Nat.mul_comm den den']
    _ = nearest num' den' := nearest_mul num' den' hden

/-- A whole number of steps is not rounded. -/
theorem nearest_of_mul {m shift : Nat} (h : Nat.log2 (m * 2 ^ shift) - 52 = shift) :
    nearest (m * 2 ^ shift) 1 = min (shift * fractions + m) infinity := by
  have hstep : 0 < 2 ^ shift := Nat.two_pow_pos shift
  have hround : roundQuotient (m * 2 ^ shift) (1 * Nat.pow 2 shift) = m := by
    unfold roundQuotient
    simp [Nat.pow_eq, Nat.mul_div_cancel _ hstep]
  unfold nearest
  simp only [Nat.div_one, h, hround]

/-! ## Finite numbers -/

/-- A number has fewer units than there are fractions, or a significand of 53 places that is shifted. -/
theorem units_cases (x : Double) :
    (x.magnitude < fractions ∧ x.units = x.magnitude) ∨
      ∃ shift fraction, fraction < fractions ∧ x.units = (fractions + fraction) * 2 ^ shift ∧
        x.magnitude = (shift + 1) * fractions + fraction := by
  have hpos : 0 < fractions := by decide
  have hsplit := Nat.div_add_mod x.magnitude fractions
  by_cases hfield : x.magnitude / fractions = 0
  · refine .inl ⟨(Nat.div_eq_zero_iff_lt hpos).mp hfield, ?_⟩
    rw [units, if_pos hfield]
    rw [hfield] at hsplit
    omega
  · obtain ⟨shift, hshift⟩ := Nat.exists_eq_add_one_of_ne_zero hfield
    refine .inr ⟨shift, x.magnitude % fractions, Nat.mod_lt _ hpos, ?_, ?_⟩
    · rw [units, if_neg hfield, hshift]
      rfl
    · rw [← hshift, Nat.mul_comm]
      exact hsplit.symm

/-- A significand of 53 places is as long as its shift says. -/
theorem log2_significand {fraction : Nat} (h : fraction < fractions) (shift : Nat) :
    Nat.log2 ((fractions + fraction) * 2 ^ shift) = 52 + shift := by
  have hfractions : fractions = 2 ^ 52 := rfl
  have hstep : 0 < 2 ^ shift := Nat.two_pow_pos shift
  have hpos : 0 < (fractions + fraction) * 2 ^ shift := Nat.mul_pos (by omega) hstep
  rw [Nat.log2_eq_iff hpos.ne']
  constructor
  · rw [Nat.pow_add, ← hfractions]
    exact Nat.mul_le_mul_right _ (Nat.le_add_right _ _)
  · rw [show 52 + shift + 1 = 53 + shift by omega, Nat.pow_add]
    refine Nat.mul_lt_mul_of_pos_right ?_ hstep
    omega

/-- The magnitude of a finite number is nearest to its units. -/
theorem nearest_units {x : Double} (h : x.isFinite = true) : nearest x.units 1 = x.magnitude := by
  have hfinite : x.magnitude < infinity := by simpa [isFinite] using h
  rcases units_cases x with ⟨hsmall, hunits⟩ | ⟨shift, fraction, hfraction, hunits, hmagnitude⟩
  · -- no more than 52 places, so no place is cut off
    have hlog : Nat.log2 x.magnitude ≤ 52 := by
      rcases Nat.eq_zero_or_pos x.magnitude with hzero | hpos
      · simp [hzero]
      · exact Nat.le_of_lt ((Nat.log2_lt hpos.ne').mpr hsmall)
    have hnearest : nearest (x.magnitude * 2 ^ 0) 1 = min (0 * fractions + x.magnitude) infinity :=
      nearest_of_mul (by rw [Nat.pow_zero, Nat.mul_one]; omega)
    rw [Nat.pow_zero, Nat.mul_one, Nat.zero_mul, Nat.zero_add] at hnearest
    rw [hunits, hnearest]
    exact Nat.min_eq_left hfinite.le
  · have hlog : Nat.log2 ((fractions + fraction) * 2 ^ shift) - 52 = shift := by
      rw [log2_significand hfraction]
      omega
    have hsum : shift * fractions + (fractions + fraction) = x.magnitude := by
      rw [hmagnitude, Nat.add_mul, Nat.one_mul, Nat.add_assoc]
    rw [hunits, nearest_of_mul hlog, hsum]
    exact Nat.min_eq_left hfinite.le

/-- A number is its sign and its magnitude. -/
theorem ofMagnitude_magnitude (x : Double) : ofMagnitude x.isNegative x.magnitude = x := by
  have hbits : (if x.isNegative then signWeight + x.magnitude else x.magnitude) = x.bits.toNat := by
    have hlt : x.bits.toNat < 2 ^ 64 := x.bits.toNat_lt
    unfold isNegative magnitude
    by_cases hneg : signWeight ≤ x.bits.toNat
    · rw [decide_eq_true hneg, if_pos rfl]
      unfold signWeight at hneg ⊢
      omega
    · rw [decide_eq_false hneg, if_neg Bool.false_ne_true]
      unfold signWeight at hneg ⊢
      omega
  rw [ofMagnitude, hbits, UInt64.ofNat_toNat]

theorem unitsPerOne_pos : 0 < unitsPerOne := by
  unfold unitsPerOne
  apply Nat.pow_pos
  decide

/-- The exact size of a finite number. -/
def size (x : Double) : ℚ := x.units / unitsPerOne

end Double

/-! ## Decimals -/

namespace Decimal

/-- The exact size of a decimal. -/
def size (d : Decimal) : ℚ := d.coefficient * (10 : ℚ) ^ d.exponent

theorem denominator_pos (d : Decimal) : 0 < d.denominator := Nat.pow_pos (by decide)

/-- A power of ten as the quotient of its positive and its negative part. -/
theorem zpow_eq_div (e : Int) : (10 : ℚ) ^ e = (10 : ℚ) ^ e.toNat / (10 : ℚ) ^ (-e).toNat := by
  rw [← zpow_natCast, ← zpow_natCast, ← zpow_sub₀ (by norm_num)]
  congr 1
  omega

theorem numerator_div_denominator (d : Decimal) :
    (d.numerator : ℚ) / d.denominator = d.size * Double.unitsPerOne := by
  rw [numerator, denominator, size, zpow_eq_div]
  push_cast [Nat.pow_eq]
  ring

/-- Decimals of the same sign and size are read alike. -/
theorem toDouble_congr {d d' : Decimal} (hneg : d.negative = d'.negative) (h : d.size = d'.size) :
    d.toDouble = d'.toDouble := by
  have hpos := d.denominator_pos
  have hpos' := d'.denominator_pos
  have hratio : (d.numerator : ℚ) / d.denominator = (d'.numerator : ℚ) / d'.denominator := by
    rw [numerator_div_denominator, numerator_div_denominator, h]
  rw [div_eq_div_iff (by positivity) (by positivity)] at hratio
  rw [toDouble, toDouble, hneg, Double.nearest_congr hpos hpos' (by exact_mod_cast hratio)]

/-- A decimal of the same sign and size as a finite number is read as that number. -/
theorem toDouble_of_size {d : Decimal} {x : Double} (hx : x.isFinite = true)
    (hneg : d.negative = x.isNegative) (h : d.size = x.size) : d.toDouble = x := by
  have hpos := d.denominator_pos
  have hunits : (d.numerator : ℚ) / d.denominator = x.units := by
    rw [numerator_div_denominator, h, Double.size, div_mul_cancel₀]
    exact_mod_cast Double.unitsPerOne_pos.ne'
  rw [div_eq_iff (by positivity)] at hunits
  have hnearest : Double.nearest d.numerator d.denominator = Double.nearest x.units 1 :=
    Double.nearest_congr hpos Nat.one_pos (by rw [Nat.mul_one]; exact_mod_cast hunits)
  rw [toDouble, hneg, hnearest, Double.nearest_units hx, Double.ofMagnitude_magnitude]

end Decimal

end PlaneCalc
