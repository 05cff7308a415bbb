import Mathlib.Algebra.Order.Field.Rat
import Mathlib.Algebra.Order.Field.Power
import Mathlib.Tactic.NormNum
import Mathlib.Tactic.Positivity
import Settings.Binary.Rounding

/-!
Decimals as rational numbers.

The place of the first digit tells how large a decimal is, and the reader decides decimals far
outside the range by it alone.  In the formats that are read this is safe: such decimals lie
beyond every magnitude (`units_limit_lt_of_far`) or below half of the smallest one
(`lt_denominator_of_near`).
-/

namespace Settings

namespace Decimal

/-- The numerator of a decimal as a quotient of natural numbers. -/
def numerator (decimal : Decimal) : Nat := decimal.coefficient * 10 ^ decimal.exponent.toNat

/-- The denominator of a decimal as a quotient of natural numbers. -/
def denominator (decimal : Decimal) : Nat := 10 ^ (-decimal.exponent).toNat

/-- The number that a decimal denotes. -/
def toRat (decimal : Decimal) : ℚ := decimal.coefficient * 10 ^ decimal.exponent

theorem toRat_eq_zero_iff {decimal : Decimal} : decimal.toRat = 0 ↔ decimal.coefficient = 0 := by
  have ten : (10 : ℚ) ^ decimal.exponent ≠ 0 := zpow_ne_zero _ (by norm_num)
  rw [toRat, mul_eq_zero, or_iff_left ten, Nat.cast_eq_zero]

theorem denominator_pos (decimal : Decimal) : 0 < decimal.denominator :=
  Nat.pow_pos (by decide)

theorem toRat_eq_div (decimal : Decimal) :
    decimal.toRat = decimal.numerator / decimal.denominator := by
  have ten : (10 : ℚ) ≠ 0 := by norm_num
  have split : decimal.exponent =
      (decimal.exponent.toNat : Int) - ((-decimal.exponent).toNat : Int) := by
    omega
  rw [toRat, numerator, denominator]
  push_cast
  conv_lhs => rw [split, zpow_sub₀ ten, zpow_natCast, zpow_natCast]
  rw [mul_div_assoc]

/-! ### The first digit -/

theorem length_ofNat_le_iff {coefficient k : Nat} (positive : 0 < k) :
    (Text.ofNat coefficient).length ≤ k ↔ coefficient < 10 ^ k :=
  Nat.length_toDigits_le_iff (by decide) positive

/-- A number is at least the power of ten of its first digit, and below the next one. -/
theorem exists_length_ofNat_eq (n : Nat) :
    ∃ place, (Text.ofNat n).length = place + 1 ∧
      (n ≠ 0 → 10 ^ place ≤ n) ∧ n < 10 ^ (place + 1) := by
  have some : 0 < (Text.ofNat n).length := Nat.length_toDigits_pos
  obtain ⟨place, count⟩ := Nat.exists_eq_add_of_lt some
  rw [Nat.zero_add] at count
  refine ⟨place, count, fun nonzero => ?_, ?_⟩
  · cases place with
    | zero => exact Nat.pos_of_ne_zero nonzero
    | succ place =>
        apply Nat.not_lt.1
        rw [← length_ofNat_le_iff (Nat.succ_pos place), count]
        exact Nat.not_succ_le_self _
  · rw [← length_ofNat_le_iff (Nat.succ_pos place), count]

/-- A decimal other than zero is at least the power of ten of its first digit. -/
theorem zpow_leading_le {decimal : Decimal} (nonzero : decimal.coefficient ≠ 0) :
    (10 : ℚ) ^ decimal.leading ≤ decimal.toRat := by
  obtain ⟨place, count, low, -⟩ := exists_length_ofNat_eq decimal.coefficient
  have leading : decimal.leading = (place : Int) + decimal.exponent := by
    rw [Decimal.leading, count]
    omega
  have bound : (10 : ℚ) ^ place ≤ decimal.coefficient := by exact_mod_cast low nonzero
  rw [leading, zpow_add₀ (by norm_num), zpow_natCast, toRat]
  exact mul_le_mul_of_nonneg_right bound (by positivity)

/-- A decimal is below the next power of ten. -/
theorem lt_zpow_leading (decimal : Decimal) :
    decimal.toRat < (10 : ℚ) ^ (decimal.leading + 1) := by
  obtain ⟨place, count, -, high⟩ := exists_length_ofNat_eq decimal.coefficient
  have leading : decimal.leading + 1 = ((place + 1 : Nat) : Int) + decimal.exponent := by
    rw [Decimal.leading, count]
    omega
  have bound : (decimal.coefficient : ℚ) < 10 ^ (place + 1) := by exact_mod_cast high
  rw [leading, zpow_add₀ (by norm_num), zpow_natCast, toRat]
  exact mul_lt_mul_of_pos_right bound (by positivity)

end Decimal

/-- Every magnitude of the format lies well within the powers of ten beyond which decimals
are not looked at any further. -/
structure Format.Moderate (format : Format) : Prop where
  fine : 2 ^ (format.scale + 1) ≤ 10 ^ Binary.farExponent.toNat
  wide : format.units format.limit < 10 ^ (Binary.farExponent.toNat + 1) * 2 ^ format.scale

theorem Format.moderate_single : single.Moderate :=
  ⟨by decide +kernel, by decide +kernel⟩

theorem Format.moderate_double : double.Moderate :=
  ⟨by decide +kernel, by decide +kernel⟩

/-- The bound on exponents is a natural number, kept apart from its value so that no power
of ten with that exponent is ever computed. -/
theorem Binary.exists_farExponent_eq : ∃ reach : Nat, farExponent = reach := ⟨400, rfl⟩

namespace Decimal

variable {format : Format}

/-- A decimal whose first digit stands too far to the left is larger than every magnitude. -/
theorem units_limit_lt_of_far (moderate : format.Moderate) {decimal : Decimal}
    (nonzero : decimal.coefficient ≠ 0) (far : Binary.farExponent < decimal.leading) :
    format.units format.limit * decimal.denominator < decimal.numerator * 2 ^ format.scale := by
  obtain ⟨reach, same⟩ := Binary.exists_farExponent_eq
  have wide := moderate.wide
  rw [same, Int.toNat_natCast] at wide
  rw [same] at far
  have positive := decimal.denominator_pos
  have place : (10 : ℚ) ^ (reach + 1) ≤ decimal.toRat := by
    rw [← zpow_natCast]
    exact le_trans (zpow_le_zpow_right₀ (by norm_num) (by omega)) (zpow_leading_le nonzero)
  rw [toRat_eq_div, le_div_iff₀ (by exact_mod_cast positive)] at place
  have digits : 10 ^ (reach + 1) * decimal.denominator ≤ decimal.numerator := by
    exact_mod_cast place
  calc format.units format.limit * decimal.denominator
    _ < 10 ^ (reach + 1) * 2 ^ format.scale * decimal.denominator :=
        Nat.mul_lt_mul_of_pos_right wide positive
    _ = 10 ^ (reach + 1) * decimal.denominator * 2 ^ format.scale := Nat.mul_right_comm ..
    _ ≤ decimal.numerator * 2 ^ format.scale := Nat.mul_le_mul_right _ digits

/-- A decimal whose first digit stands too far to the right is less than half of the smallest
positive magnitude. -/
theorem lt_denominator_of_near (moderate : format.Moderate) {decimal : Decimal}
    (near : decimal.leading < -Binary.farExponent) :
    decimal.numerator * 2 ^ (format.scale + 1) < decimal.denominator := by
  obtain ⟨reach, same⟩ := Binary.exists_farExponent_eq
  have fine := moderate.fine
  rw [same, Int.toNat_natCast] at fine
  rw [same] at near
  have place : decimal.toRat < (10 : ℚ) ^ (-(reach : Int)) :=
    lt_of_lt_of_le decimal.lt_zpow_leading (zpow_le_zpow_right₀ (by norm_num) (by omega))
  rw [toRat_eq_div, zpow_neg, zpow_natCast, ← one_div,
    div_lt_div_iff₀ (by exact_mod_cast decimal.denominator_pos) (by positivity), one_mul] at place
  have digits : decimal.numerator * 10 ^ reach < decimal.denominator := by
    exact_mod_cast place
  exact Nat.lt_of_le_of_lt (Nat.mul_le_mul_left _ fine) digits

end Decimal

end Settings
