import Mathlib.Algebra.Order.Field.Power
import Mathlib.Algebra.Order.Floor.Semifield
import Mathlib.Data.Int.Log
import Mathlib.Data.Rat.Floor
import PlaneCalc.Double.Text
import PlaneCalc.Proofs.Double.Rounding

/-!
# What the shortest decimal stands for

The decade of a positive number is the power of ten that its first digit counts, `Int.log 10` of its size.
`leadingExponent` and `leading` compute it from digits. The search for the shortest decimal keeps to grids
within that decade, so what it returns is read as the number and lies in the same decade or at its upper
end (`StandsFor`). Whether it is rounded up to the next power of ten is decided by reading that power.
-/

namespace PlaneCalc

namespace Decimal

/-! ## The place of the first digit -/

theorem zpow_le_iff {q : ℚ} (hq : 0 < q) {e : Int} : 10 ^ e ≤ q ↔ e ≤ Int.log 10 q := by
  exact_mod_cast Int.zpow_le_iff_le_log (b := 10) (by decide) hq

theorem lt_zpow_iff {q : ℚ} (hq : 0 < q) {e : Int} : q < 10 ^ e ↔ Int.log 10 q < e := by
  exact_mod_cast Int.lt_zpow_iff_log_lt (b := 10) (by decide) hq

/-- The decade of a size is told by the powers of ten around it. -/
theorem log_eq_of_le_of_lt {q : ℚ} {e : Int} (hlow : 10 ^ e ≤ q) (hhigh : q < 10 ^ (e + 1)) :
    Int.log 10 q = e := by
  have hq : 0 < q := lt_of_lt_of_le (by positivity) hlow
  rw [zpow_le_iff hq] at hlow
  rw [lt_zpow_iff hq] at hhigh
  omega

theorem zpow_log_le {q : ℚ} (hq : 0 < q) : 10 ^ Int.log 10 q ≤ q := (zpow_le_iff hq).mpr le_rfl

theorem lt_zpow_log_add_one {q : ℚ} (hq : 0 < q) : q < 10 ^ (Int.log 10 q + 1) :=
  (lt_zpow_iff hq).mpr (by omega)

/-- A positive number has as many digits as its size says. -/
theorem pow_length_toDigits {n : Nat} (h : 0 < n) :
    ∃ places, (Nat.toDigits 10 n).length = places + 1 ∧ 10 ^ places ≤ n ∧ n < 10 ^ (places + 1) := by
  have hpos : 0 < (Nat.toDigits 10 n).length := List.length_pos_iff.mpr Nat.toDigits_ne_nil
  obtain ⟨places, hplaces⟩ := Nat.exists_eq_add_one_of_ne_zero hpos.ne'
  refine ⟨places, hplaces, ?_, ?_⟩
  · rcases Nat.eq_zero_or_pos places with rfl | hmore
    · exact h
    · have hlong : ¬ (Nat.toDigits 10 n).length ≤ places := by omega
      rw [Nat.length_toDigits_le_iff (by decide) hmore] at hlong
      exact Nat.le_of_not_lt hlong
  · exact (Nat.length_toDigits_le_iff (by decide) (by omega)).mp hplaces.le

theorem size_pos {d : Decimal} (h : 0 < d.coefficient) : 0 < d.size :=
  mul_pos (by exact_mod_cast h) (by positivity)

/-- The first digit of the coefficient stands at the place of the size. -/
theorem leading_eq_log {d : Decimal} (h : 0 < d.coefficient) : d.leading = Int.log 10 d.size := by
  obtain ⟨places, hlength, hlow, hhigh⟩ := pow_length_toDigits h
  have hleading : d.leading = places + d.exponent := by
    rw [leading, hlength]
    omega
  have hpow : (0 : ℚ) < 10 ^ d.exponent := by positivity
  rw [hleading]
  refine (log_eq_of_le_of_lt ?_ ?_).symm
  · rw [size, zpow_add₀ (by norm_num), zpow_natCast, mul_le_mul_iff_left₀ hpow]
    exact_mod_cast hlow
  · rw [size, add_right_comm, zpow_add₀ (by norm_num), mul_lt_mul_iff_left₀ hpow]
    exact_mod_cast hhigh

/-! ## The first digit of a quotient -/

theorem leadingExponent_of_le {num den : Nat} (hden : 0 < den) (h : den ≤ num) :
    leadingExponent num den = Int.log 10 (num / den : ℚ) := by
  obtain ⟨places, hlength, hlow, hhigh⟩ := pow_length_toDigits (Nat.div_pos h hden)
  have hq : (0 : ℚ) < den := by exact_mod_cast hden
  have hexponent : leadingExponent num den = places := by
    rw [leadingExponent, if_pos h, hlength]
    omega
  rw [hexponent]
  refine (log_eq_of_le_of_lt ?_ ?_).symm
  · rw [le_div_iff₀ hq]
    exact_mod_cast (Nat.le_div_iff_mul_le hden).mp hlow
  · rw [div_lt_iff₀ hq]
    exact_mod_cast (Nat.div_lt_iff_lt_mul hden).mp hhigh

/-- The least number of places is what it says, if there is one that is small enough. -/
theorem placesToOne_spec {num den bound : Nat} (hbound : bound < 330)
    (h : den ≤ num * 10 ^ bound) :
    den ≤ num * 10 ^ placesToOne num den ∧ ∀ k < placesToOne num den, num * 10 ^ k < den := by
  unfold placesToOne
  cases hfind : (List.range 330).find? fun k => den ≤ num * Nat.pow 10 k with
  | none =>
    have hnone := List.find?_range_eq_none.mp hfind bound hbound
    simp [Nat.pow_eq] at hnone
    omega
  | some k =>
    obtain ⟨hk, -, hleast⟩ := List.find?_range_eq_some.mp hfind
    simp only [Nat.pow_eq, decide_eq_true_eq] at hk
    refine ⟨hk, fun j hj => ?_⟩
    simpa [Nat.pow_eq] using hleast j hj

theorem leadingExponent_of_lt {num den bound : Nat} (hbound : bound < 330)
    (hden : den ≤ num * 10 ^ bound) (h : num < den) :
    leadingExponent num den = Int.log 10 (num / den : ℚ) := by
  obtain ⟨hlow, hleast⟩ := placesToOne_spec hbound hden
  have hq : (0 : ℚ) < den := by exact_mod_cast Nat.zero_lt_of_lt h
  rw [leadingExponent, if_neg (by omega)]
  generalize placesToOne num den = places at hlow hleast ⊢
  -- no place at all is not enough, so there is a place before the last
  obtain ⟨before, rfl⟩ : ∃ before, places = before + 1 := by
    refine Nat.exists_eq_add_one_of_ne_zero ?_
    rintro rfl
    omega
  have hhigh := hleast before (by omega)
  refine (log_eq_of_le_of_lt ?_ ?_).symm
  · rw [le_div_iff₀ hq, zpow_neg, zpow_natCast, inv_mul_le_iff₀ (by positivity), mul_comm]
    exact_mod_cast hlow
  · rw [show -((before + 1 : Nat) : Int) + 1 = -(before : Int) by omega, div_lt_iff₀ hq, zpow_neg,
      zpow_natCast, lt_inv_mul_iff₀ (by positivity), mul_comm]
    exact_mod_cast hhigh

/-- The least number is more than `10 ^ (-324)`. -/
theorem unitsPerOne_le : Double.unitsPerOne ≤ 10 ^ 324 := by decide +kernel

theorem leadingExponent_units {x : Double} (h : 0 < x.units) :
    leadingExponent x.units Double.unitsPerOne = Int.log 10 x.size := by
  by_cases hle : Double.unitsPerOne ≤ x.units
  · exact leadingExponent_of_le Double.unitsPerOne_pos hle
  · refine leadingExponent_of_lt (by decide : 324 < 330) ?_ (by omega)
    calc Double.unitsPerOne ≤ 1 * 10 ^ 324 := by rw [Nat.one_mul]; exact unitsPerOne_le
      _ ≤ x.units * 10 ^ 324 := Nat.mul_le_mul_right _ h

/-! ## The two neighbours on a grid -/

theorem scaled_div_step (num den : Nat) (e : Int) :
    ((num * Nat.pow 10 (-e).toNat : Nat) : ℚ) / (den * Nat.pow 10 e.toNat : Nat) =
      num / den / 10 ^ e := by
  rw [zpow_eq_div e]
  push_cast [Nat.pow_eq]
  field_simp

/-- The neighbours of a quotient are a whole number of steps away, below it and above it. -/
theorem mem_neighbours {negative : Bool} {num den : Nat} {e : Int} {d : Decimal}
    (h : d ∈ neighbours negative num den e) :
    d.negative = negative ∧ d.exponent = e ∧
      ⌊(num / den / 10 ^ e : ℚ)⌋₊ ≤ d.coefficient ∧
        d.coefficient ≤ ⌊(num / den / 10 ^ e : ℚ)⌋₊ + 1 := by
  rw [← scaled_div_step, Nat.floor_div_eq_div]
  unfold neighbours at h
  simp only at h
  split at h <;> rcases List.mem_pair.mp h with rfl | rfl <;> simp

/-- The neighbours on a grid that is fine enough lie between the same powers of ten; only the higher one
may reach the next of them. -/
theorem size_of_mem_neighbours {negative : Bool} {num den : Nat} {e place : Int} {d : Decimal}
    (hfine : e ≤ place) (hlow : (10 : ℚ) ^ place ≤ num / den)
    (hhigh : (num / den : ℚ) < 10 ^ (place + 1)) (h : d ∈ neighbours negative num den e) :
    10 ^ place ≤ d.size ∧ d.size ≤ 10 ^ (place + 1) := by
  obtain ⟨-, rfl, hbelow, habove⟩ := mem_neighbours h
  obtain ⟨places, rfl⟩ : ∃ places : Nat, place = places + d.exponent :=
    ⟨(place - d.exponent).toNat, by omega⟩
  have hstep : (0 : ℚ) < 10 ^ d.exponent := by positivity
  rw [zpow_add₀ (by norm_num), zpow_natCast] at hlow ⊢
  rw [add_right_comm, zpow_add₀ (by norm_num)] at hhigh ⊢
  -- in steps of the grid both powers of ten are whole numbers
  have hleast : 10 ^ places ≤ ⌊(num / den / 10 ^ d.exponent : ℚ)⌋₊ := by
    refine Nat.le_floor ?_
    rw [le_div_iff₀ hstep]
    exact_mod_cast hlow
  have hmost : ⌊(num / den / 10 ^ d.exponent : ℚ)⌋₊ < 10 ^ (places + 1) := by
    rw [Nat.floor_lt (by positivity), div_lt_iff₀ hstep]
    exact_mod_cast hhigh
  rw [size, mul_le_mul_iff_left₀ hstep, mul_le_mul_iff_left₀ hstep]
  constructor
  · exact_mod_cast hleast.trans hbelow
  · exact_mod_cast habove.trans hmost

/-! ## The shortest decimal -/

/-- Halving is a fifth of the step to the next decimal place. -/
theorem size_halved (negative : Bool) (n k : Nat) :
    size ⟨negative, n * Nat.pow 5 k, -(k : Int)⟩ = n / (Nat.pow 2 k : Nat) := by
  have hten : (10 : ℚ) ^ k = 5 ^ k * 2 ^ k := by
    rw [← mul_pow]
    norm_num
  rw [size, zpow_neg, zpow_natCast, hten]
  push_cast [Nat.pow_eq]
  field_simp

/-- The exact value is as large as the number. -/
theorem size_exact (x : Double) : (exact x).size = x.size := by
  unfold exact Double.size Double.unitsPerOne
  apply size_halved

/-- A decimal that is read as a number and lies in the same decade, or at its upper end. -/
structure StandsFor (d : Decimal) (x : Double) : Prop where
  negative : d.negative = x.isNegative
  reads : d.toDouble = x
  low : 10 ^ Int.log 10 x.size ≤ d.size
  high : d.size ≤ 10 ^ (Int.log 10 x.size + 1)

theorem standsFor_exact {x : Double} (hfinite : x.isFinite = true) (hpos : 0 < x.size) :
    StandsFor (exact x) x where
  negative := rfl
  reads := toDouble_of_size hfinite rfl (size_exact x)
  low := by
    rw [size_exact]
    exact zpow_log_le hpos
  high := by
    rw [size_exact]
    exact (lt_zpow_log_add_one hpos).le

theorem standsFor_neighbour {x : Double} {d : Decimal} {k : Nat} (hpos : 0 < x.size)
    (h : d ∈ neighbours x.isNegative x.units Double.unitsPerOne (Int.log 10 x.size - k))
    (hd : d.toDouble = x) : StandsFor d x := by
  have hfine : Int.log 10 x.size - k ≤ Int.log 10 x.size := by omega
  have hsize := size_of_mem_neighbours hfine (zpow_log_le hpos) (lt_zpow_log_add_one hpos) h
  exact ⟨(mem_neighbours h).1, hd, hsize.1, hsize.2⟩

/-- Whatever the search finds stands for the number, and so does what stands behind it. -/
theorem standsFor_shortest {x : Double} (hfinite : x.isFinite = true) (hpos : 0 < x.size) :
    StandsFor (shortest x) x := by
  have hunits : 0 < x.units := by
    refine Nat.pos_of_ne_zero fun hzero => hpos.ne' ?_
    rw [Double.size, hzero, Nat.cast_zero, zero_div]
  unfold shortest
  rw [leadingExponent_units hunits]
  simp only
  cases hsome : (List.range 17).findSome? fun (k : Nat) =>
      (neighbours x.isNegative x.units Double.unitsPerOne (Int.log 10 x.size - k)).find?
        fun d => d.toDouble = x with
  | none => exact standsFor_exact hfinite hpos
  | some d =>
    obtain ⟨k, -, hfind⟩ := List.exists_of_findSome?_eq_some hsome
    exact standsFor_neighbour hpos (List.mem_of_find?_eq_some hfind)
      (by simpa using List.find?_some hfind)

section StandsFor

variable {d : Decimal} {x : Double} {e : Int}

theorem StandsFor.coefficient_pos (h : StandsFor d x) : 0 < d.coefficient := by
  have hsize : 0 < d.size := lt_of_lt_of_le (by positivity) h.low
  refine Nat.pos_of_ne_zero fun hzero => hsize.ne' ?_
  rw [size, hzero, Nat.cast_zero, zero_mul]

/-- The first digit does not stand below a power of ten that the number reaches. -/
theorem StandsFor.le_leading (h : StandsFor d x) (hpos : 0 < x.size) (hx : 10 ^ e ≤ x.size) :
    e ≤ d.leading := by
  have hd := size_pos h.coefficient_pos
  rw [leading_eq_log h.coefficient_pos]
  exact ((zpow_le_iff hpos).mp hx).trans ((zpow_le_iff hd).mp h.low)

/-- The first digit stands below a power of ten that the number does not reach: a decimal that is rounded
up to that power is read as the power is, which is not this number. -/
theorem StandsFor.leading_lt (h : StandsFor d x) (hpos : 0 < x.size) (hx : x.size < 10 ^ e)
    (hne : toDouble ⟨x.isNegative, 1, e⟩ ≠ x) : d.leading < e := by
  have hle : d.size ≤ 10 ^ e :=
    h.high.trans (zpow_le_zpow_right₀ (by norm_num) ((lt_zpow_iff hpos).mp hx))
  have hlt : d.size < 10 ^ e := by
    refine lt_of_le_of_ne hle fun heq => hne ?_
    refine (toDouble_congr h.negative.symm ?_).trans h.reads
    rw [heq, size, Nat.cast_one, one_mul]
  rw [leading_eq_log h.coefficient_pos]
  exact (lt_zpow_iff (size_pos h.coefficient_pos)).mp hlt

end StandsFor

end Decimal

end PlaneCalc
