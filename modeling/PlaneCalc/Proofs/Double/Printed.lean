import Mathlib.Data.Nat.Cast.Field
import PlaneCalc.Proofs.Decimal.Shortest
import PlaneCalc.Proofs.Grammar.RoundTrip

/-!
# Printed numbers read back

The text of a number is written by one rule and read by another: an integral number by all its digits,
any other by its shortest decimal, with the point where the first digit puts it or with an exponent;
what is read is a numeral, which has no exponent. `Spells` is where the two meet, an unsigned text that
is a numeral of a certain size. An integral number and a decimal that is written positionally are spelled
by their texts, and the size is all that reading depends on. What is not written positionally has a
letter in its text, and a literal has none.
-/

namespace PlaneCalc

/-! ## Digits -/

/-- The digits of a positive number begin with one that is not zero. -/
theorem toDigits_eq_cons {n : Nat} (h : 0 < n) :
    ∃ d ds, Nat.toDigits 10 n = d :: ds ∧ d ≠ '0' := by
  induction n using Nat.strong_induction_on with
  | _ n ih =>
    rw [Nat.toDigits_eq_if (by decide)]
    split
    next hlt =>
      have hdigit : ∀ m < 10, 0 < m → Nat.digitChar m ≠ '0' := by decide
      exact ⟨n.digitChar, [], rfl, hdigit n hlt h⟩
    next =>
      obtain ⟨d, ds, hds, hd⟩ := ih (n / 10) (by omega) (by omega)
      exact ⟨d, ds ++ [(n % 10).digitChar], by rw [hds]; rfl, hd⟩

theorem isDigit_of_mem_toDigits {n : Nat} : ∀ c ∈ Nat.toDigits 10 n, c.isDigit = true :=
  fun _ => Nat.isDigit_of_mem_toDigits (by decide) (by decide)

theorem isWhole_toDigits (n : Nat) : IsWhole (Nat.toDigits 10 n) := by
  rcases Nat.eq_zero_or_pos n with rfl | hpos
  · exact .zero
  · obtain ⟨d, ds, hds, hd⟩ := toDigits_eq_cons hpos
    have hdigits := isDigit_of_mem_toDigits (n := n)
    rw [hds, List.forall_mem_cons] at hdigits
    rw [hds]
    exact .positive hdigits.1 hd hdigits.2

/-- Dropping the zeros at the end drops nothing else. -/
theorem exists_zeros (cs : List Char) :
    ∃ k, cs = (cs.reverse.dropWhile (· = '0')).reverse ++ List.replicate k '0' := by
  refine ⟨(cs.reverse.takeWhile (· = '0')).length, ?_⟩
  have hzeros : cs.reverse.takeWhile (· = '0') =
      List.replicate (cs.reverse.takeWhile (· = '0')).length '0' := by
    rw [List.eq_replicate_iff]
    refine ⟨rfl, fun c hc => ?_⟩
    simpa using List.mem_takeWhile_imp hc
  rw [← List.reverse_replicate, ← hzeros, ← List.reverse_append, List.takeWhile_append_dropWhile,
    List.reverse_reverse]

theorem isDigit_of_mem_replicate {k : Nat} : ∀ c ∈ List.replicate k '0', c.isDigit = true := by
  intro c hc
  rw [List.eq_of_mem_replicate hc]
  decide

theorem Double.signed_eq (negative : Bool) (w : List Char) :
    signed negative w = Numeral.sign negative ++ w := by
  cases negative <;> rfl

namespace Decimal

/-! ## Texts that spell a size -/

/-- An unsigned text that spells a size: with either sign it is a numeral, of that sign and size. -/
def Spells (w : List Char) (q : ℚ) : Prop :=
  ∀ negative, ∃ n : Numeral, n.Regular ∧ n.negative = negative ∧
    n.text = Double.signed negative w ∧ n.toDecimal.size = q

theorem spells_integral {whole : List Char} (h : IsWhole whole) :
    Spells whole (Nat.ofDigitChars 10 whole 0) := by
  intro negative
  refine ⟨⟨negative, whole, []⟩, ⟨h, by simp⟩, rfl, ?_, ?_⟩
  · rw [Numeral.text_integral, Double.signed_eq]
  · simp [Numeral.toDecimal, size]

theorem spells_fractional {whole fraction : List Char} (h : IsWhole whole)
    (hfraction : ∀ c ∈ fraction, c.isDigit = true) (hne : fraction ≠ []) :
    Spells (whole ++ '.' :: fraction)
      (Nat.ofDigitChars 10 (whole ++ fraction) 0 * 10 ^ (-(fraction.length : Int))) := by
  intro negative
  refine ⟨⟨negative, whole, fraction⟩, ⟨h, hfraction⟩, rfl, ?_, rfl⟩
  rw [Numeral.text_fractional _ _ hne, Double.signed_eq, List.append_assoc]

section Positional

variable {c : Char} {cs : List Char}

/-- Zeros behind the point, before all digits. -/
theorem spells_below_one (hcs : ∀ d ∈ c :: cs, d.isDigit = true) (zeros : Nat) :
    Spells ('0' :: '.' :: (List.replicate zeros '0' ++ c :: cs))
      (Nat.ofDigitChars 10 (c :: cs) 0 * 10 ^ (-(zeros + 1 : Int) - cs.length)) := by
  have hfraction : ∀ d ∈ List.replicate zeros '0' ++ c :: cs, d.isDigit = true :=
    List.forall_mem_append.mpr ⟨isDigit_of_mem_replicate, hcs⟩
  have hspells := spells_fractional .zero hfraction (by simp)
  have hvalue : Nat.ofDigitChars 10 (['0'] ++ (List.replicate zeros '0' ++ c :: cs)) 0 =
      Nat.ofDigitChars 10 (c :: cs) 0 := by
    rw [Nat.ofDigitChars_append, Nat.ofDigitChars_append, Nat.ofDigitChars_replicate_zero]
    rfl
  have hplaces : -((List.replicate zeros '0' ++ c :: cs).length : Int) =
      -(zeros + 1 : Int) - cs.length := by
    rw [List.length_append, List.length_replicate, List.length_cons]
    omega
  rw [hvalue, hplaces] at hspells
  exact hspells

/-- Zeros before the point, behind all digits. -/
theorem spells_padded (h0 : c ≠ '0') (hcs : ∀ d ∈ c :: cs, d.isDigit = true) (zeros : Nat) :
    Spells (c :: cs ++ List.replicate zeros '0' ++ ['.', '0'])
      (Nat.ofDigitChars 10 (c :: cs) 0 * 10 ^ (zeros : Int)) := by
  obtain ⟨hc, hcs⟩ := List.forall_mem_cons.mp hcs
  have hwhole : IsWhole (c :: cs ++ List.replicate zeros '0') :=
    .positive hc h0 (List.forall_mem_append.mpr ⟨hcs, isDigit_of_mem_replicate⟩)
  have hzero : ∀ d ∈ ['0'], d.isDigit = true := List.forall_mem_singleton.mpr rfl
  have hspells := spells_fractional hwhole hzero (by simp)
  have hvalue : Nat.ofDigitChars 10 (c :: cs ++ List.replicate zeros '0' ++ ['0']) 0 =
      10 ^ (zeros + 1) * Nat.ofDigitChars 10 (c :: cs) 0 := by
    rw [List.append_assoc, ← List.replicate_succ', Nat.ofDigitChars_append,
      Nat.ofDigitChars_replicate_zero]
  have hsize : ((10 ^ (zeros + 1) * Nat.ofDigitChars 10 (c :: cs) 0 : Nat) : ℚ) *
      10 ^ (-(['0'].length : Int)) = Nat.ofDigitChars 10 (c :: cs) 0 * 10 ^ (zeros : Int) := by
    rw [List.length_singleton, zpow_neg, zpow_natCast, zpow_natCast]
    push_cast
    field_simp
    ring
  rwa [hvalue, hsize] at hspells

/-- The point among the digits. -/
theorem spells_divided (h0 : c ≠ '0') (hcs : ∀ d ∈ c :: cs, d.isDigit = true) {k : Nat}
    (hk : k < cs.length) :
    Spells ((c :: cs).take (k + 1) ++ '.' :: (c :: cs).drop (k + 1))
      (Nat.ofDigitChars 10 (c :: cs) 0 * 10 ^ (k - cs.length : Int)) := by
  have hwhole : IsWhole ((c :: cs).take (k + 1)) :=
    .positive (hcs c (by simp)) h0 fun d hd => hcs d (List.mem_cons_of_mem _ (List.mem_of_mem_take hd))
  have hfraction : ∀ d ∈ (c :: cs).drop (k + 1), d.isDigit = true :=
    fun d hd => hcs d (List.mem_of_mem_drop hd)
  have hspells := spells_fractional hwhole hfraction (by simp; omega)
  have hplaces : -(((c :: cs).drop (k + 1)).length : Int) = k - cs.length := by
    rw [List.length_drop, List.length_cons]
    omega
  rwa [List.take_append_drop, hplaces] at hspells

theorem spells_positional (h0 : c ≠ '0') (hcs : ∀ d ∈ c :: cs, d.isDigit = true) (leading : Int) :
    Spells (positional (c :: cs) leading)
      (Nat.ofDigitChars 10 (c :: cs) 0 * 10 ^ (leading - cs.length)) := by
  unfold positional
  split
  next hneg =>
    obtain ⟨zeros, rfl⟩ : ∃ zeros : Nat, leading = -(zeros + 1 : Int) :=
      ⟨(-leading).toNat - 1, by omega⟩
    rw [show (- -(zeros + 1 : Int)).toNat - 1 = zeros by omega]
    exact spells_below_one hcs zeros
  next hneg =>
    obtain ⟨k, rfl⟩ : ∃ k : Nat, leading = k := ⟨leading.toNat, by omega⟩
    rw [Int.toNat_natCast]
    by_cases hshort : (c :: cs).length ≤ k + 1
    · simp only [if_pos hshort]
      rw [List.length_cons] at hshort ⊢
      have hspells := spells_padded h0 hcs (k + 1 - (cs.length + 1))
      rwa [show ((k + 1 - (cs.length + 1) : Nat) : Int) = k - cs.length by omega] at hspells
    · simp only [if_neg hshort]
      rw [List.length_cons] at hshort
      exact spells_divided h0 hcs (by omega)

end Positional

/-- The significant digits of a decimal, with the place of the first of them, give its size. -/
theorem size_eq_significant {d : Decimal} (h : 0 < d.coefficient) :
    ∃ c cs, d.significant = c :: cs ∧ c ≠ '0' ∧ (∀ a ∈ c :: cs, a.isDigit = true) ∧
      d.size = Nat.ofDigitChars 10 (c :: cs) 0 * 10 ^ (d.leading - cs.length) := by
  obtain ⟨a, ds, hds, ha⟩ := toDigits_eq_cons h
  obtain ⟨zeros, hzeros⟩ := exists_zeros (Nat.toDigits 10 d.coefficient)
  rw [← significant] at hzeros
  cases hsignificant : d.significant with
  | nil =>
    rw [hsignificant, hds, List.nil_append] at hzeros
    exact absurd (List.eq_of_mem_replicate (hzeros ▸ List.mem_cons_self)) ha
  | cons c cs =>
    rw [hsignificant] at hzeros
    have hdigits := isDigit_of_mem_toDigits (n := d.coefficient)
    rw [hzeros, List.forall_mem_append] at hdigits
    refine ⟨c, cs, rfl, ?_, hdigits.1, ?_⟩
    · rw [hds, List.cons_append, List.cons.injEq] at hzeros
      exact hzeros.1 ▸ ha
    · have hcoefficient : d.coefficient = 10 ^ zeros * Nat.ofDigitChars 10 (c :: cs) 0 := by
        rw [← Nat.ofDigitChars_replicate_zero, ← Nat.ofDigitChars_append, ← hzeros,
          Nat.ofDigitChars_ten_toDigits]
      have hleading : d.leading - cs.length = zeros + d.exponent := by
        rw [leading, hzeros, List.length_append, List.length_replicate, List.length_cons]
        omega
      rw [size, hleading, zpow_add₀ (by norm_num), zpow_natCast, hcoefficient]
      push_cast
      ring

/-- A decimal that is written positionally is spelled. -/
theorem spells_unsignedText {d : Decimal} (h : 0 < d.coefficient) (hlow : -4 ≤ d.leading)
    (hhigh : d.leading < 16) : Spells d.unsignedText d.size := by
  obtain ⟨c, cs, hsignificant, hc, hcs, hsize⟩ := size_eq_significant h
  rw [unsignedText, if_pos ⟨hlow, hhigh⟩, hsignificant, hsize]
  exact spells_positional hc hcs d.leading

end Decimal

/-! ## Numbers -/

namespace Double

/-- The zero with the sign bit set. -/
def negativeZero : Double := ⟨0x8000000000000000⟩

/-- The numbers that are shown without an exponent: zero, and what is at least a ten-thousandth. -/
def Positional (x : Double) : Prop := x.isFinite = true ∧ (x.isZero = true ∨ 1 / 10000 ≤ x.size)

theorem isZero_iff {x : Double} : x.isZero = true ↔ x.units = 0 := by
  have hpos : 0 < fractions := by decide
  rw [isZero, decide_eq_true_iff]
  rcases units_cases x with ⟨-, hunits⟩ | ⟨shift, fraction, -, hunits, hmagnitude⟩
  · rw [hunits]
  · have hleft : 0 < (shift + 1) * fractions := Nat.mul_pos (Nat.succ_pos _) hpos
    have hright : 0 < (fractions + fraction) * 2 ^ shift :=
      Nat.mul_pos (by omega) (Nat.two_pow_pos shift)
    omega

theorem size_pos {x : Double} (h : x.isZero = false) : 0 < x.size := by
  have hunits : 0 < x.units := by
    refine Nat.pos_of_ne_zero fun hzero => ?_
    rw [isZero_iff.mpr hzero] at h
    exact absurd h (by decide)
  exact div_pos (by exact_mod_cast hunits) (by exact_mod_cast unitsPerOne_pos)

theorem ten_thousandth_eq : (10 : ℚ) ^ (-4 : Int) = 1 / 10000 := by norm_num

/-- Comparing with a ten-thousandth by counting units. -/
theorem le_size_iff {x : Double} : 1 / 10000 ≤ x.size ↔ unitsPerOne ≤ 10000 * x.units := by
  have hone : (0 : ℚ) < unitsPerOne := by exact_mod_cast unitsPerOne_pos
  rw [size, div_le_div_iff₀ (by norm_num) hone, one_mul, mul_comm]
  exact_mod_cast Iff.rfl

instance (x : Double) : Decidable x.Positional :=
  decidable_of_iff (x.isFinite = true ∧ (x.isZero = true ∨ unitsPerOne ≤ 10000 * x.units))
    (by rw [Positional, le_size_iff])

/-- The size of an integral number is the one that its digits show. -/
theorem size_of_isIntegral {x : Double} (h : x.isIntegral = true) :
    x.size = (x.units / unitsPerOne : Nat) := by
  rw [isIntegral, decide_eq_true_iff] at h
  rw [size, Nat.cast_div (Nat.dvd_of_mod_eq_zero h) (by exact_mod_cast unitsPerOne_pos.ne')]

theorem unitsPerOne_dvd {shift : Nat} (h : 1074 ≤ shift) : unitsPerOne ∣ 2 ^ shift := by
  unfold unitsPerOne
  apply Nat.pow_dvd_pow
  exact h

theorem pow_le_unitsPerOne {shift : Nat} (h : shift ≤ 1074) : 2 ^ shift ≤ unitsPerOne := by
  unfold unitsPerOne
  apply Nat.pow_le_pow_right
  · decide
  · exact h

/-- A number with a fraction has some of its 53 places behind the point. -/
theorem size_lt_of_fractional {x : Double} (h : x.isIntegral = false) :
    x.size < 10 ^ (16 : Int) := by
  have hone := unitsPerOne_pos
  have hfractions : 2 * fractions ≤ 10 ^ 16 := by decide
  have hunits : x.units < 10 ^ 16 * unitsPerOne := by
    rcases units_cases x with ⟨hsmall, hunits⟩ | ⟨shift, fraction, hfraction, hunits, -⟩
    · calc x.units < 2 * fractions := by omega
        _ ≤ 10 ^ 16 * 1 := by rw [Nat.mul_one]; exact hfractions
        _ ≤ 10 ^ 16 * unitsPerOne := Nat.mul_le_mul_left _ hone
    · have hshift : shift ≤ 1074 := by
        refine Nat.le_of_not_lt fun hlong => ?_
        rw [isIntegral, decide_eq_false_iff_not, hunits] at h
        exact h (Nat.mod_eq_zero_of_dvd (Dvd.dvd.mul_left (unitsPerOne_dvd hlong.le) _))
      calc x.units = (fractions + fraction) * 2 ^ shift := hunits
        _ < 2 * fractions * 2 ^ shift :=
          Nat.mul_lt_mul_of_pos_right (by omega) (Nat.two_pow_pos shift)
        _ ≤ 10 ^ 16 * unitsPerOne := Nat.mul_le_mul hfractions (pow_le_unitsPerOne hshift)
  rw [size, div_lt_iff₀ (by exact_mod_cast hone)]
  exact_mod_cast hunits

theorem isZero_eq_false {x : Double} (h : x.isIntegral = false) : x.isZero = false := by
  rw [isIntegral, decide_eq_false_iff_not] at h
  rw [← Bool.not_eq_true, isZero_iff]
  intro hzero
  rw [hzero, Nat.zero_mod] at h
  exact h rfl

theorem text_of_fractional {x : Double} (hfinite : x.isFinite = true) (h : x.isIntegral = false) :
    x.text = String.ofList (signed x.isNegative (Decimal.shortest x).unsignedText) := by
  have hnan : x.isNaN = false := by
    simp only [isFinite, isNaN, decide_eq_true_iff, decide_eq_false_iff_not] at hfinite ⊢
    omega
  simp [text, fullText, h, hnan, hfinite, isZero_eq_false h]

/-- A number is read back if its text spells a decimal that is read as this number. -/
theorem readsBack_of_spells {x : Double} {d : Decimal} {w : List Char}
    (htext : x.text.toList = signed d.negative w) (hw : Decimal.Spells w d.size)
    (hd : d.toDouble = x) : x.ReadsBack := by
  obtain ⟨n, hn, hneg, hntext, hsize⟩ := hw d.negative
  exact ⟨n, hn, htext.trans hntext.symm, (Decimal.toDouble_congr hneg hsize).trans hd⟩

/-- Only the negative zero loses its sign. -/
theorem sign_of_ne_negativeZero {x : Double} (h : x ≠ negativeZero) :
    (x.isNegative && !x.isZero) = x.isNegative := by
  cases hneg : x.isNegative with
  | false => rfl
  | true =>
    cases hzero : x.isZero with
    | false => rfl
    | true =>
      rw [isZero, decide_eq_true_iff] at hzero
      refine absurd ?_ h
      rw [← ofMagnitude_magnitude x, hneg, hzero]
      rfl

theorem readsBack_of_integral {x : Double} (hfinite : x.isFinite = true) (h : x.isIntegral = true)
    (hne : x ≠ negativeZero) : x.ReadsBack := by
  have htext : x.text.toList = signed x.isNegative (Nat.toDigits 10 (x.units / unitsPerOne)) := by
    simp [text, hfinite, h, sign_of_ne_negativeZero hne]
  have hspells := Decimal.spells_integral (isWhole_toDigits (x.units / unitsPerOne))
  rw [Nat.ofDigitChars_ten_toDigits, ← size_of_isIntegral h, ← Decimal.size_exact] at hspells
  exact readsBack_of_spells htext hspells
    (Decimal.toDouble_of_size hfinite rfl (Decimal.size_exact x))

theorem readsBack_of_fractional {x : Double} (hfinite : x.isFinite = true)
    (h : x.isIntegral = false) (hx : 1 / 10000 ≤ x.size) : x.ReadsBack := by
  have hpos := size_pos (isZero_eq_false h)
  have hstands := Decimal.standsFor_shortest hfinite hpos
  have hlow : -4 ≤ (Decimal.shortest x).leading := by
    refine hstands.le_leading hpos ?_
    rw [ten_thousandth_eq]
    exact hx
  have hhigh : (Decimal.shortest x).leading < 16 := by
    refine hstands.leading_lt hpos (size_lt_of_fractional h) fun heq => ?_
    have hten : ∀ negative, (Decimal.toDouble ⟨negative, 1, 16⟩).isIntegral = true := by
      decide +kernel
    rw [← heq, hten] at h
    exact absurd h (by decide)
  refine readsBack_of_spells ?_ (Decimal.spells_unsignedText hstands.coefficient_pos hlow hhigh)
    hstands.reads
  rw [text_of_fractional hfinite h, String.toList_ofList, hstands.negative]

theorem Positional.readsBack {x : Double} (h : x.Positional) (hne : x ≠ negativeZero) :
    x.ReadsBack := by
  obtain ⟨hfinite, hsize⟩ := h
  cases hintegral : x.isIntegral with
  | true => exact readsBack_of_integral hfinite hintegral hne
  | false =>
    refine readsBack_of_fractional hfinite hintegral (hsize.resolve_left ?_)
    rw [isZero_eq_false hintegral]
    decide

/-- An integral number is at least one, if it is not zero. -/
theorem one_le_size {x : Double} (h : x.isIntegral = true) (hzero : x.isZero = false) :
    1 ≤ x.size := by
  have hpos := size_pos hzero
  rw [size_of_isIntegral h] at hpos ⊢
  exact_mod_cast hpos

/-- A number below a ten-thousandth is shown with an exponent. -/
theorem mem_text_of_small {x : Double} (hfinite : x.isFinite = true) (hzero : x.isZero = false)
    (hx : x.size < 1 / 10000) : 'e' ∈ x.text.toList := by
  have hpos := size_pos hzero
  have hstands := Decimal.standsFor_shortest hfinite hpos
  have hfractional : x.isIntegral = false := by
    rw [← Bool.not_eq_true]
    intro h
    have hone := one_le_size h hzero
    linarith
  have hsmall : (Decimal.shortest x).leading < -4 := by
    refine hstands.leading_lt hpos ?_ fun heq => ?_
    · rw [ten_thousandth_eq]
      exact hx
    · have hten : ∀ negative,
          unitsPerOne ≤ 10000 * (Decimal.toDouble ⟨negative, 1, -4⟩).units := by
        decide +kernel
      have hle := le_size_iff.mpr (hten x.isNegative)
      rw [heq] at hle
      exact absurd hx (not_lt.mpr hle)
  rw [text_of_fractional hfinite hfractional, String.toList_ofList, signed_eq,
    Decimal.unsignedText, if_neg (by omega)]
  simp

/-- What is shown with an exponent or in words has a letter in it. -/
theorem exists_letter {x : Double} (h : ¬ x.Positional) :
    ∃ c ∈ x.text.toList, c.isLower = true := by
  cases hfinite : x.isFinite with
  | false =>
    cases hnan : x.isNaN with
    | true => exact ⟨'n', by simp [text, fullText, hfinite, hnan], by decide⟩
    | false => exact ⟨'i', by simp [text, fullText, hfinite, hnan, signed_eq], by decide⟩
  | true =>
    rw [Positional, hfinite] at h
    simp only [true_and, not_or, Bool.not_eq_true, not_le] at h
    exact ⟨'e', mem_text_of_small hfinite h.1 h.2, by decide⟩

end Double

/-! ## Reading a printed number -/

theorem Numeral.isLower_of_mem_text {n : Numeral} (hn : n.Regular) :
    ∀ c ∈ n.text, c.isLower = false := by
  intro c hc
  rcases hn.mem_text hc with hd | rfl | rfl
  · rw [← Bool.not_eq_true, isLower_iff]
    have hcode := isDigit_iff.mp hd
    omega
  · decide
  · decide

namespace Grammar

/-- A literal is written without letters. -/
theorem isLower_of_literal {r : Rank} {w : List Char} {e : Expr} (h : Derives r w e) :
    ∀ v, e = .literal v → ∀ c ∈ w, c.isLower = false := by
  induction h with
  | number hn => exact fun _ _ => Numeral.isLower_of_mem_text hn
  | vector hx hy =>
    intro v _
    have hx := Numeral.isLower_of_mem_text hx
    have hy := Numeral.isLower_of_mem_text hy
    simp only [List.forall_mem_cons, List.forall_mem_append]
    exact ⟨by decide, hx, by decide, hy, by decide, List.forall_mem_nil _⟩
  | name _ => simp
  | group _ ih =>
    intro v hv
    simp only [List.forall_mem_cons, List.forall_mem_append]
    exact ⟨by decide, ih v hv, by decide, List.forall_mem_nil _⟩
  | factor _ ih => exact ih
  | summand _ ih => exact ih
  | scale _ _ _ _ _ => simp
  | extend _ _ _ _ _ => simp

/-- A number that reads back is read back in every language. -/
theorem parse_of_readsBack (lang : Language) {x : Double} (h : x.ReadsBack) :
    parse lang x.text = .ok (.expression (.literal (.scalar x))) := by
  obtain ⟨hderives, hflat⟩ :=
    derives_text_literal (v := .scalar x) (by simpa [Value.numbers] using h)
  refine parse_eq_ok_iff.mpr (line_of_sentence (.expression hderives.toSum) ?_)
  rw [hflat.groupDepth_eq_zero]
  exact Nat.zero_le _

/-- A line with a letter in it is no literal. -/
theorem parse_ne_literal (lang : Language) {line : String} {c : Char} (hc : c ∈ line.toList)
    (hlower : c.isLower = true) (v : Value) : parse lang line ≠ .ok (.expression (.literal v)) := by
  intro hparse
  have hmem : c ∈ Text.compact line := by
    rw [Text.compact, List.mem_filter, Text.isBlank_of_isLower hlower]
    exact ⟨hc, rfl⟩
  have hsentence := sentence_of_line (parse_eq_ok_iff.mp hparse)
  generalize Text.compact line = w at hmem hsentence
  cases hsentence with
  | expression h =>
    rw [isLower_of_literal h v rfl c hmem] at hlower
    exact absurd hlower (by decide)

/-- Printed numbers read back. Zero and what is at least a ten-thousandth is printed as a numeral, which
is read as the very number that was printed; only the negative zero is printed like the positive one
and read as that. What is printed of any other number is not read as a literal, so it is never taken for
another number. -/
theorem printed_number_reads_back (lang : Language) :
    (∀ x : Double, x.Positional →
      (∃ n : Numeral, n.Regular ∧ x.text.toList = n.text) ∧
      (x ≠ .negativeZero → parse lang x.text = .ok (.expression (.literal (.scalar x))))) ∧
    (Double.negativeZero.text = "0" ∧
      parse lang Double.negativeZero.text = .ok (.expression (.literal (.scalar ⟨0⟩)))) ∧
    ∀ x : Double, ¬ x.Positional → ∀ v, parse lang x.text ≠ .ok (.expression (.literal v)) := by
  have hzero : Double.negativeZero.text = "0" := by decide +kernel
  refine ⟨fun x hx => ?_, ⟨hzero, ?_⟩, fun x hx v => ?_⟩
  · by_cases hne : x = .negativeZero
    · refine ⟨⟨.zero, Numeral.zero_regular, ?_⟩, fun h => absurd hne h⟩
      rw [hne, hzero]
      rfl
    · have hback := hx.readsBack hne
      have ⟨n, hn, htext, _⟩ := hback
      exact ⟨⟨n, hn, htext⟩, fun _ => parse_of_readsBack lang hback⟩
  · have hpositive : Double.text ⟨0⟩ = "0" := by decide +kernel
    rw [hzero, ← hpositive]
    exact parse_of_readsBack lang (Double.readsBack_of_integral (by decide) (by decide +kernel) (by decide))
  · obtain ⟨c, hc, hlower⟩ := Double.exists_letter hx
    exact parse_ne_literal lang hc hlower v

/-- The sum of a tenth and a fifth has seventeen digits, and a hundred-thousandth has an exponent. -/
theorem printed_number_reads_back_to_the_last_digit :
    let sum : Double := ⟨0x3FD3333333333334⟩
    let small : Double := ⟨0x3EE4F8B588E368F1⟩
    sum.text = "0.30000000000000004" ∧
      parse .standard sum.text = .ok (.expression (.literal (.scalar sum))) ∧
      small.text = "1e-05" ∧
      ∀ v, parse .standard small.text ≠ .ok (.expression (.literal v)) := by
  intro sum small
  have hread := printed_number_reads_back .standard
  have hsum : sum.Positional := by decide +kernel
  have hsmall : ¬ small.Positional := by decide +kernel
  exact ⟨by decide +kernel, (hread.1 sum hsum).2 (by decide), by decide +kernel,
    hread.2.2 small hsmall⟩

end Grammar

end PlaneCalc
