import Blueprint.Proofs.Numerals
import Mathlib.Algebra.Order.Field.Power
import Mathlib.Algebra.Order.Field.Rat
import Mathlib.Tactic.FieldSimp
import Mathlib.Tactic.Linarith
import Mathlib.Tactic.Ring

/-!
A decimal expansion of a finite floating-point number is read as that number: a fraction that equals
a canonical significand times a power of two is rounded to exactly these parts.
-/
set_option autoImplicit false

namespace Blueprint

namespace Binary64

/-! ## Fractions as rational numbers -/

theorem scaleDown_pos {den : Nat} (positive : 0 < den) (num : Nat) (exponent : Int) :
    0 < (scaleDown num den exponent).2 := by
  cases exponent with
  | ofNat e => exact Nat.mul_pos positive (Nat.pow_pos (by omega))
  | negSucc e => exact positive

theorem scaleDown_ratio (num den : Nat) (exponent : Int) :
    ((scaleDown num den exponent).1 : ℚ) / (scaleDown num den exponent).2 =
      num / den / 2 ^ exponent := by
  cases exponent with
  | ofNat e =>
    have power : ((powerOfTwo e : Nat) : ℚ) = 2 ^ e := by simp [powerOfTwo]
    simp only [scaleDown, Nat.cast_mul, power, Int.ofNat_eq_natCast, zpow_natCast, div_div]
  | negSucc e =>
    have power : ((powerOfTwo (e + 1) : Nat) : ℚ) = 2 ^ (e + 1) := by simp [powerOfTwo]
    simp only [scaleDown, Nat.cast_mul, power, zpow_negSucc, div_inv_eq_mul]
    ring

/-- The quotient of a fraction is below a bound if the fraction is. -/
theorem div_lt_iff_ratio {num den bound : Nat} (positive : 0 < den) :
    num / den < bound ↔ (num : ℚ) / den < bound := by
  have positive' : (0 : ℚ) < den := by exact_mod_cast positive
  rw [Nat.div_lt_iff_lt_mul positive, div_lt_iff₀ positive']
  exact_mod_cast Iff.rfl

section Exact

variable {num den : Nat}

theorem ratio_lt_log2 (num : Nat) (positive : 0 < den) :
    (num : ℚ) / den < 2 ^ ((num.log2 : Int) - den.log2 + 1) := by
  have top : (num : ℚ) < 2 ^ ((num.log2 : Int) + 1) := by
    exact_mod_cast Nat.lt_log2_self (n := num)
  have bottom : (2 : ℚ) ^ (den.log2 : Int) ≤ den := by
    exact_mod_cast Nat.log2_self_le (Nat.pos_iff_ne_zero.mp positive)
  have positive' : (0 : ℚ) < den := by exact_mod_cast positive
  rw [div_lt_iff₀ positive']
  calc (num : ℚ) < 2 ^ ((num.log2 : Int) + 1) := top
    _ = 2 ^ ((num.log2 : Int) - den.log2 + 1) * 2 ^ (den.log2 : Int) := by
      rw [← zpow_add₀ (by norm_num)]
      congr 1
      ring
    _ ≤ 2 ^ ((num.log2 : Int) - den.log2 + 1) * den := by gcongr

theorem log2_lt_ratio (some : 0 < num) (positive : 0 < den) :
    (2 : ℚ) ^ ((num.log2 : Int) - den.log2 - 1) < num / den := by
  have top : (2 : ℚ) ^ (num.log2 : Int) ≤ num := by
    exact_mod_cast Nat.log2_self_le (Nat.pos_iff_ne_zero.mp some)
  have bottom : (den : ℚ) < 2 ^ ((den.log2 : Int) + 1) := by
    exact_mod_cast Nat.lt_log2_self (n := den)
  have positive' : (0 : ℚ) < den := by exact_mod_cast positive
  rw [lt_div_iff₀ positive']
  calc (2 : ℚ) ^ ((num.log2 : Int) - den.log2 - 1) * den
      < 2 ^ ((num.log2 : Int) - den.log2 - 1) * 2 ^ ((den.log2 : Int) + 1) := by gcongr
    _ = 2 ^ (num.log2 : Int) := by
      rw [← zpow_add₀ (by norm_num)]
      congr 1
      ring
    _ ≤ num := top

variable {significand : Nat} {exponent : Int} (some : 0 < num) (positive : 0 < den)
  (exact : (num : ℚ) / den = significand * 2 ^ exponent)

include some positive exact

/-- The logarithms of a fraction's parts tell the exponent, up to one where all bits are used. -/
theorem guess_exact (canonical : CanonicalParts significand exponent) :
    max ((num.log2 : Int) - den.log2 - 52) (-1074) = exponent ∨
      (max ((num.log2 : Int) - den.log2 - 52) (-1074) = exponent + 1 ∧ 2 ^ 52 ≤ significand) := by
  obtain ⟨few, least, _, full⟩ := canonical
  have upper := ratio_lt_log2 num positive
  have lower := log2_lt_ratio some positive
  rw [exact] at upper lower
  generalize (num.log2 : Int) - den.log2 = logarithm at upper lower ⊢
  have above {bits : Nat} (bound : significand < 2 ^ bits) : logarithm - 1 < bits + exponent := by
    have bound' : (significand : ℚ) < 2 ^ bits := by exact_mod_cast bound
    refine (zpow_lt_zpow_iff_right₀ (one_lt_two (α := ℚ))).mp (lower.trans ?_)
    rw [zpow_add₀ two_ne_zero, zpow_natCast]
    gcongr
  by_cases normal : 2 ^ 52 ≤ significand
  · have below : 52 + exponent < logarithm + 1 := by
      have bound : (2 : ℚ) ^ 52 ≤ significand := by exact_mod_cast normal
      refine (zpow_lt_zpow_iff_right₀ (one_lt_two (α := ℚ))).mp (lt_of_le_of_lt ?_ upper)
      rw [zpow_add₀ two_ne_zero]
      exact mul_le_mul_of_nonneg_right (by exact_mod_cast bound) (by positivity)
    have above := above few
    push_cast at above
    by_cases same : logarithm - 52 = exponent
    · exact .inl (by omega)
    · exact .inr ⟨by omega, normal⟩
  · have atLeast : exponent = -1074 := full.resolve_left normal
    have above := above (Nat.not_le.mp normal)
    push_cast at above
    exact .inl (by omega)

/-- The exponent of an exact fraction is the one of its canonical parts. -/
theorem exponentFor_exact (canonical : CanonicalParts significand exponent) :
    exponentFor num den = exponent := by
  have ratio (guess : Int) := scaleDown_ratio num den guess
  have guess := guess_exact some positive exact canonical
  obtain ⟨few, least, _, full⟩ := canonical
  unfold exponentFor
  generalize max ((num.log2 : Int) - den.log2 - 52) (-1074) = guessed at guess ⊢
  simp only [div_lt_iff_ratio (scaleDown_pos positive num guessed), ratio, exact]
  have power : ((powerOfTwo 52 : Nat) : ℚ) = 2 ^ 52 := by norm_num [powerOfTwo]
  rw [power]
  rcases guess with rfl | ⟨rfl, normal⟩
  · have same : (significand : ℚ) * 2 ^ guessed / 2 ^ guessed = significand := by
      field_simp
    rw [same]
    split
    · next fewer =>
      have fewer' : significand < 2 ^ 52 := by exact_mod_cast fewer
      have atLeast : guessed = -1074 := full.resolve_left (Nat.not_le.mpr fewer')
      omega
    · rfl
  · have half : (significand : ℚ) * 2 ^ exponent / 2 ^ (exponent + 1) < 2 ^ 52 := by
      have few' : (significand : ℚ) < 2 ^ 53 := by exact_mod_cast few
      rw [zpow_add_one₀ two_ne_zero, ← div_div, mul_div_assoc, div_self (by positivity), mul_one]
      linarith
    rw [if_pos half]
    omega

end Exact

theorem roundDiv_mul (number : Nat) {den : Nat} (positive : 0 < den) :
    roundDiv (number * den) den = number := by
  simp [roundDiv, Nat.mul_div_cancel _ positive, Nat.ne_of_lt positive]

/-- A fraction that equals the canonical parts of a number is read as that number. -/
theorem ofRatio_exact (negative : Bool) {num den significand : Nat} {exponent : Int}
    (positive : 0 < den) (exact : (num : ℚ) / den = significand * 2 ^ exponent)
    (canonical : CanonicalParts significand exponent) :
    ofRatio negative num den = .finite negative significand exponent canonical := by
  have positive' : (0 : ℚ) < den := by exact_mod_cast positive
  rcases Nat.eq_zero_or_pos num with rfl | some
  · have isZero : significand = 0 := by
      have product : (significand : ℚ) * 2 ^ exponent = 0 := by simpa using exact.symm
      exact_mod_cast (mul_eq_zero.mp product).resolve_right (by positivity)
    subst isZero
    have atLeast : exponent = -1074 := canonical.2.2.2.resolve_left (by decide)
    subst atLeast
    rfl
  · have bottom := scaleDown_pos positive num exponent
    have bottom' : (0 : ℚ) < (scaleDown num den exponent).2 := by exact_mod_cast bottom
    have top : (scaleDown num den exponent).1 = significand * (scaleDown num den exponent).2 := by
      have ratio := scaleDown_ratio num den exponent
      rw [exact, mul_div_assoc, div_self (by positivity), mul_one, div_eq_iff bottom'.ne'] at ratio
      exact_mod_cast ratio
    have few : significand ≠ powerOfTwo 53 := Nat.ne_of_lt canonical.1
    unfold ofRatio
    simp only [beq_iff_eq, Nat.pos_iff_ne_zero.mp some, if_false,
      exponentFor_exact some positive exact canonical, top, roundDiv_mul significand bottom, few,
      ofParts, dif_pos canonical]

end Binary64

/-! ## Decimal expansions -/

theorem isNumber_decimal (negative : Bool) (number places : Nat) :
    IsNumber (Written.sign negative ++ Written.decimal number (places + 1)) := by
  refine ⟨Written.sign negative, Nat.toDigits 10 (number / 10 ^ (places + 1)),
    '.' :: Written.lastDigits (places + 1) number, by simp [Written.decimal], ?_, ?_,
    .inr ⟨_, rfl, ?_⟩⟩
  · cases negative with
    | true => exact .inr rfl
    | false => exact .inl rfl
  · exact (decimal_toDigits _).isDigits Nat.toDigits_ne_nil
  · refine (decimal_lastDigits _ _).isDigits ?_
    intro none
    have length := length_lastDigits (places + 1) number
    rw [none] at length
    contradiction

theorem float_decimal (negative : Bool) (number places : Nat) :
    Numeral.float (Written.sign negative ++ Written.decimal number (places + 1)) =
      Binary64.ofRatio negative number (powerOfTen (places + 1)) := by
  have whole := decimal_toDigits (number / 10 ^ (places + 1))
  have notPoint : ∀ c ∈ Nat.toDigits 10 (number / 10 ^ (places + 1)), (c != '.') = true := by
    intro c member
    rw [bne_iff_ne]
    rintro rfl
    exact whole.not_mem (by decide) member
  rw [Numeral.float, Written.decimal, splitSign_sign negative whole _ Nat.toDigits_ne_nil]
  simp only [List.takeWhile_append_of_pos notPoint, List.dropWhile_append_of_pos notPoint,
    List.takeWhile_cons, List.dropWhile_cons, bne_self_eq_false, Bool.false_eq_true, if_false,
    List.append_nil, List.drop_succ_cons, List.drop_zero, natural_decimal, length_lastDigits]
  rfl

theorem float_written (negative : Bool) {significand : Nat} {exponent : Int}
    (canonical : CanonicalParts significand exponent) :
    Numeral.float (Written.float (.finite negative significand exponent canonical)) =
      .finite negative significand exponent canonical := by
  cases exponent with
  | ofNat e =>
    refine (float_decimal negative _ 0).trans (Binary64.ofRatio_exact negative (by decide) ?_ _)
    norm_num [powerOfTen]
  | negSucc e =>
    refine (float_decimal negative _ e).trans
      (Binary64.ofRatio_exact negative (Nat.pow_pos (by omega)) ?_ _)
    have ten : ((10 ^ (e + 1) : Nat) : ℚ) = 2 ^ (e + 1) * 5 ^ (e + 1) := by
      rw [← mul_pow]
      norm_num
    rw [ten, zpow_negSucc]
    push_cast
    field_simp

theorem isNumber_float (negative : Bool) {significand : Nat} {exponent : Int}
    (canonical : CanonicalParts significand exponent) :
    IsNumber (Written.float (.finite negative significand exponent canonical)) := by
  cases exponent with
  | ofNat e => exact isNumber_decimal negative _ 0
  | negSucc e => exact isNumber_decimal negative _ e

theorem point_mem_float (negative : Bool) {significand : Nat} {exponent : Int}
    (canonical : CanonicalParts significand exponent) :
    '.' ∈ Written.float (.finite negative significand exponent canonical) := by
  cases exponent <;> simp [Written.float, Written.decimal]

end Blueprint
