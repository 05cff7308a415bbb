import Settings.Proofs.Binary.Decimals
import Settings.Proofs.Binary.Nearest

/-!
Decimals that are rounded to zero or to an infinity.

A decimal is rounded to zero up to half of the smallest positive magnitude, and to an infinity
from half a step beyond the largest finite magnitude.  What the reader decides by the
place of the first digit agrees with the two thresholds, and all else is decided by the nearest
rank (`Format.nearest_le_iff`).
-/

namespace Settings

namespace Format

variable {format : Format}

/-- Half of the smallest positive magnitude. -/
def tiny (format : Format) : ℚ := 1 / 2 ^ (format.scale + 1)

/-- The midpoint between the largest finite magnitude and the next one there would be. -/
def huge (format : Format) : ℚ :=
  ((format.units (format.limit - 1) + format.units format.limit : Nat) : ℚ) /
    2 ^ (format.scale + 1)

theorem tiny_pos (format : Format) : 0 < format.tiny := by
  rw [tiny]
  positivity

/-- The upper threshold as a difference of two powers, where the largest magnitude has `bits`
significant bits and its last bit stands for twice `2 ^ place`. -/
theorem huge_eq (format : Format) (bits place : Nat)
    (sum : format.units (format.limit - 1) + format.units format.limit =
      (2 ^ (bits + 1) - 1) * 2 ^ (place + (format.scale + 1))) :
    format.huge = 2 ^ (bits + 1 + place) - 2 ^ place := by
  have one : 1 ≤ 2 ^ (bits + 1) := Nat.one_le_two_pow
  have scale : (2 : ℚ) ^ (format.scale + 1) ≠ 0 := by positivity
  rw [huge, sum, Nat.cast_mul, Nat.cast_sub one]
  push_cast
  rw [pow_add 2 place, ← mul_assoc, mul_div_cancel_right₀ _ scale, sub_mul, one_mul, ← pow_add]

/-- The thresholds of single precision. -/
theorem tiny_single : single.tiny = 1 / 2 ^ 150 := by
  have scale : single.scale = 149 := by decide
  rw [tiny, scale]

theorem huge_single : single.huge = 2 ^ 128 - 2 ^ 103 := by
  have exponent : 24 + 1 + 103 = 128 := rfl
  rw [huge_eq single 24 103 (by decide +kernel), exponent]

/-- The thresholds of double precision. -/
theorem tiny_double : double.tiny = 1 / 2 ^ 1075 := by
  have scale : double.scale = 1074 := by decide
  rw [tiny, scale]

theorem huge_double : double.huge = 2 ^ 1024 - 2 ^ 970 := by
  have exponent : 53 + 1 + 970 = 1024 := rfl
  rw [huge_eq double 53 970 (by decide +kernel), exponent]

/-- Ranks are limited to some, and the first that is left out is even. -/
structure Limited (format : Format) : Prop where
  positive : 0 < format.limit
  even : format.limit % 2 = 0

theorem limited_single : single.Limited := ⟨by decide, by decide⟩

theorem limited_double : double.Limited := ⟨by decide, by decide⟩

end Format

namespace Decimal

variable {format : Format}

/-- Thresholds in half units of the format are compared by cross multiplication. -/
theorem toRat_le_div_iff (format : Format) (decimal : Decimal) (halves : Nat) :
    decimal.toRat ≤ (halves : ℚ) / 2 ^ (format.scale + 1) ↔
      2 * (decimal.numerator * 2 ^ format.scale) ≤ halves * decimal.denominator := by
  have denominator : (0 : ℚ) < decimal.denominator := by exact_mod_cast decimal.denominator_pos
  rw [toRat_eq_div, div_le_div_iff₀ denominator (by positivity)]
  norm_cast
  rw [Nat.pow_succ, Nat.mul_left_comm 2, Nat.mul_comm 2]

theorem div_le_toRat_iff (format : Format) (decimal : Decimal) (halves : Nat) :
    (halves : ℚ) / 2 ^ (format.scale + 1) ≤ decimal.toRat ↔
      halves * decimal.denominator ≤ 2 * (decimal.numerator * 2 ^ format.scale) := by
  have denominator : (0 : ℚ) < decimal.denominator := by exact_mod_cast decimal.denominator_pos
  rw [toRat_eq_div, div_le_div_iff₀ (by positivity) denominator]
  norm_cast
  rw [Nat.pow_succ, Nat.mul_left_comm 2, Nat.mul_comm 2]

theorem huge_le_toRat_of_far (moderate : format.Moderate) {decimal : Decimal}
    (nonzero : decimal.coefficient ≠ 0) (far : Binary.farExponent < decimal.leading) :
    format.huge ≤ decimal.toRat := by
  have beyond := units_limit_lt_of_far moderate nonzero far
  have before := Nat.mul_le_mul_right decimal.denominator
    (Format.units_le_units format (Nat.sub_le format.limit 1))
  rw [Format.huge, div_le_toRat_iff, Nat.add_mul]
  omega

theorem toRat_le_tiny_of_near (moderate : format.Moderate) {decimal : Decimal}
    (near : decimal.leading < -Binary.farExponent) : decimal.toRat ≤ format.tiny := by
  have below := lt_denominator_of_near moderate near
  rw [Nat.pow_succ, ← Nat.mul_assoc] at below
  rw [Format.tiny, ← Nat.cast_one, toRat_le_div_iff]
  omega

end Decimal

namespace Format

variable {format : Format}

theorem units_zero (format : Format) : format.units 0 = 0 := by
  rw [units, if_pos (Nat.two_pow_pos _)]

theorem units_one (format : Format) : format.units 1 = 1 := by
  rw [units_succ, units_zero, Nat.zero_div, Nat.zero_sub, Nat.pow_zero, Nat.zero_add]

theorem tiny_lt_huge (limited : format.Limited) : format.tiny < format.huge := by
  have several : 1 < format.limit := by
    have := limited.positive
    have := limited.even
    omega
  have beyond := units_lt_units format several
  rw [units_one] at beyond
  have halves : 1 < format.units (format.limit - 1) + format.units format.limit := by omega
  rw [tiny, huge]
  exact div_lt_div_of_pos_right (by exact_mod_cast halves) (by positivity)

end Format

namespace Binary

variable {format : Format}

theorem isZero_ofRank_iff (limited : format.Limited) (negative : Bool) (rank : Nat) :
    (ofRank negative rank : Binary format).isZero = true ↔ rank = 0 := by
  rw [ofRank]
  split
  · simp [isZero]
  · next beyond =>
      have positive := limited.positive
      exact iff_of_false (by simp [isZero]) (by omega)

theorem isInfinite_ofRank_iff (negative : Bool) (rank : Nat) :
    (ofRank negative rank : Binary format).isInfinite = true ↔ format.limit ≤ rank := by
  rw [ofRank]
  split
  · next inside => exact iff_of_false (by simp [isInfinite]) (Nat.not_le.2 inside)
  · next beyond => exact iff_of_true rfl (Nat.not_lt.1 beyond)

/-- A decimal is read as zero just up to half of the smallest positive magnitude. -/
theorem isZero_ofDecimal_iff (moderate : format.Moderate) (limited : format.Limited)
    (negative : Bool) (decimal : Decimal) :
    (ofDecimal negative decimal : Binary format).isZero = true ↔ decimal.toRat ≤ format.tiny := by
  rw [ofDecimal]
  split
  · next zero =>
      refine iff_of_true ((isZero_ofRank_iff limited negative 0).2 rfl) ?_
      rw [Decimal.toRat_eq_zero_iff.2 zero]
      exact le_of_lt format.tiny_pos
  next nonzero =>
  split
  · next far =>
      have beyond := Decimal.huge_le_toRat_of_far moderate nonzero far
      refine iff_of_false (by simp [isZero]) (not_le.2 ?_)
      exact lt_of_lt_of_le (Format.tiny_lt_huge limited) beyond
  split
  · next near =>
      exact iff_of_true ((isZero_ofRank_iff limited negative 0).2 rfl)
        (Decimal.toRat_le_tiny_of_near moderate near)
  · -- Rank 0 is even, so the midpoint itself is rounded down to it.
    have rounds : format.nearest (decimal.numerator * 2 ^ format.scale) decimal.denominator ≤
        0 ↔ _ :=
      Format.nearest_le_iff decimal.denominator_pos
    rw [Format.units_zero, Format.units_one] at rounds
    rw [isZero_ofRank_iff limited, ← Nat.le_zero, Format.tiny, ← Nat.cast_one,
      decimal.toRat_le_div_iff]
    refine Iff.trans rounds ?_
    omega

/-- A decimal is read as an infinity just from half a step beyond the largest magnitude on. -/
theorem isInfinite_ofDecimal_iff (moderate : format.Moderate) (limited : format.Limited)
    (negative : Bool) (decimal : Decimal) :
    (ofDecimal negative decimal : Binary format).isInfinite = true ↔
      format.huge ≤ decimal.toRat := by
  have tiny := Format.tiny_lt_huge limited
  have positive := limited.positive
  have even := limited.even
  rw [ofDecimal]
  split
  · next zero =>
      refine iff_of_false ?_ (not_le.2 ?_)
      · rw [isInfinite_ofRank_iff]
        omega
      · rw [Decimal.toRat_eq_zero_iff.2 zero]
        exact lt_trans format.tiny_pos tiny
  next nonzero =>
  split
  · next far => exact iff_of_true rfl (Decimal.huge_le_toRat_of_far moderate nonzero far)
  split
  · next near =>
      have below := Decimal.toRat_le_tiny_of_near moderate near
      refine iff_of_false ?_ (not_le.2 (lt_of_le_of_lt below tiny))
      rw [isInfinite_ofRank_iff]
      omega
  · -- The last rank is odd, so the midpoint itself is rounded up from it.
    have rounds : format.nearest (decimal.numerator * 2 ^ format.scale) decimal.denominator ≤
        format.limit - 1 ↔ _ :=
      Format.nearest_le_iff decimal.denominator_pos
    have last : format.limit - 1 + 1 = format.limit := Nat.sub_add_cancel positive
    rw [last] at rounds
    rw [isInfinite_ofRank_iff, Format.huge, decimal.div_le_toRat_iff]
    change format.limit ≤
      format.nearest (decimal.numerator * 2 ^ format.scale) decimal.denominator ↔ _
    omega

end Binary

end Settings
