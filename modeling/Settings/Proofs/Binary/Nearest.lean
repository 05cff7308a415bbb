import Settings.Binary.Basic

/-!
Rounding to the nearest magnitude of a binary format.

Magnitudes increase with their ranks, and `floorRank` inverts `units` from below.
From these two facts alone it follows that `nearest` finds the rank in whose interval
a quotient lies (`nearest_eq_of_roundsTo`).  Quotients are compared by cross
multiplication, so all arithmetic is that of natural numbers.
-/

namespace Settings.Format

variable {format : Format}

/-- The last number of a block. -/
theorem mod_of_succ_mod_eq_zero {n width : Nat} (wraps : (n + 1) % width = 0) :
    n % width = width - 1 := by
  have here := Nat.div_add_mod n width
  have next := Nat.div_add_mod (n + 1) width
  rw [Nat.succ_div_of_mod_eq_zero wraps, wraps, Nat.mul_add] at next
  omega

/-- A number with a successor in the same block. -/
theorem succ_mod_of_succ_mod_ne_zero {n width : Nat} (stays : (n + 1) % width ≠ 0) :
    (n + 1) % width = n % width + 1 := by
  have here := Nat.div_add_mod n width
  have next := Nat.div_add_mod (n + 1) width
  rw [Nat.succ_div_of_mod_ne_zero stays] at next
  omega

/-- The step from a rank to the next one. -/
theorem units_succ (format : Format) (rank : Nat) :
    format.units (rank + 1) = format.units rank + 2 ^ (rank / 2 ^ format.fractionBits - 1) := by
  unfold units
  generalize block : 2 ^ format.fractionBits = width
  have positive : 0 < width := block ▸ Nat.two_pow_pos _
  by_cases small : rank < width
  · have zero : rank / width = 0 := Nat.div_eq_of_lt small
    by_cases next : rank + 1 < width
    · simp [small, next, zero]
    · have last : rank + 1 = width := by omega
      have one : (rank + 1) / width = 1 := by rw [last, Nat.div_self positive]
      have rest : (rank + 1) % width = 0 := by rw [last, Nat.mod_self]
      rw [if_neg next, if_pos small, one, rest, zero]
      simp
      omega
  · have past : ¬ rank + 1 < width := by omega
    have exponent : 1 ≤ rank / width := (Nat.one_le_div_iff positive).2 (by omega)
    rw [if_neg past, if_neg small]
    by_cases wraps : (rank + 1) % width = 0
    · -- The block of the next exponent begins, with steps twice as long.
      have power : 2 ^ (rank / width) = 2 * 2 ^ (rank / width - 1) := by
        rw [← Nat.pow_succ']
        congr
        omega
      have total : width + (width - 1) + 1 = 2 * width := by omega
      rw [Nat.succ_div_of_mod_eq_zero wraps, wraps, mod_of_succ_mod_eq_zero wraps,
        Nat.add_sub_cancel, power, Nat.add_zero, ← Nat.succ_mul, Nat.succ_eq_add_one, total,
        Nat.mul_comm 2 width, Nat.mul_assoc]
    · rw [Nat.succ_div_of_mod_ne_zero wraps, succ_mod_of_succ_mod_ne_zero wraps,
        ← Nat.add_assoc, Nat.succ_mul]

theorem units_lt_succ (format : Format) (rank : Nat) :
    format.units rank < format.units (rank + 1) := by
  rw [units_succ]
  exact Nat.lt_add_of_pos_right (Nat.two_pow_pos _)

theorem units_le_units (format : Format) {low high : Nat} (le : low ≤ high) :
    format.units low ≤ format.units high := by
  induction le with
  | refl => exact Nat.le_refl _
  | step _ ih => exact Nat.le_trans ih (Nat.le_of_lt (units_lt_succ format _))

theorem units_lt_units (format : Format) {low high : Nat} (lt : low < high) :
    format.units low < format.units high :=
  Nat.lt_of_lt_of_le (units_lt_succ format low) (units_le_units format lt)

/-- The magnitude is in order only if the rank is. -/
theorem lt_of_units_lt_units (format : Format) {low high : Nat}
    (lt : format.units low < format.units high) :
    low < high := by
  apply Nat.lt_of_not_le
  intro le
  exact Nat.not_lt_of_le (units_le_units format le) lt

/-- A fraction with its leading bit takes a rank to the next block of ranks. -/
theorem mul_add_div_eq {width fraction : Nat} (exponent : Nat) (low : width ≤ fraction)
    (high : fraction < 2 * width) : (exponent * width + fraction) / width = exponent + 1 := by
  apply Nat.div_eq_of_lt_le
  · rw [Nat.succ_mul]
    omega
  · rw [Nat.succ_mul, Nat.succ_mul]
    omega

/-- The magnitude of a rank given by an exponent and a fraction with its leading bit. -/
theorem units_mul_add (format : Format) (exponent : Nat) {fraction : Nat}
    (low : 2 ^ format.fractionBits ≤ fraction) (high : fraction < 2 * 2 ^ format.fractionBits) :
    format.units (exponent * 2 ^ format.fractionBits + fraction) = fraction * 2 ^ exponent := by
  unfold units
  generalize 2 ^ format.fractionBits = width at low high ⊢
  have quotient := mul_add_div_eq exponent low high
  have rest : (exponent * width + fraction) % width = fraction - width := by
    have whole := Nat.div_add_mod (exponent * width + fraction) width
    rw [quotient, Nat.mul_add, Nat.mul_comm width exponent] at whole
    omega
  have large : ¬ exponent * width + fraction < width := by omega
  have whole : width + (fraction - width) = fraction := by omega
  rw [if_neg large, quotient, rest, whole, Nat.add_sub_cancel]

/-- A count beyond the first block, by its exponent and the bits in front of it. -/
theorem exists_floorRank_eq (format : Format) {count : Nat}
    (large : ¬ count < 2 ^ format.fractionBits) :
    ∃ exponent,
      format.floorRank count = exponent * 2 ^ format.fractionBits + count / 2 ^ exponent ∧
        2 ^ format.fractionBits ≤ count / 2 ^ exponent ∧
          count / 2 ^ exponent < 2 * 2 ^ format.fractionBits := by
  have nonzero : count ≠ 0 := by
    have := Nat.two_pow_pos format.fractionBits
    omega
  have bits : format.fractionBits ≤ count.log2 := (Nat.le_log2 nonzero).2 (Nat.not_lt.1 large)
  obtain ⟨exponent, sum⟩ : ∃ exponent, count.log2 = format.fractionBits + exponent :=
    ⟨_, (Nat.add_sub_of_le bits).symm⟩
  have positive : 0 < 2 ^ exponent := Nat.two_pow_pos exponent
  refine ⟨exponent, ?_, ?_, ?_⟩
  · rw [floorRank, if_neg large, sum, Nat.add_sub_cancel_left]
  · rw [Nat.le_div_iff_mul_le positive, ← Nat.pow_add, ← sum]
    exact Nat.log2_self_le nonzero
  · rw [Nat.div_lt_iff_lt_mul positive, Nat.mul_assoc, ← Nat.pow_add, ← sum, ← Nat.pow_succ']
    exact Nat.lt_log2_self

/-- A count lies between the magnitude of its floor and the next one. -/
theorem floorRank_spec (format : Format) (count : Nat) :
    format.units (format.floorRank count) ≤ count ∧
      count < format.units (format.floorRank count + 1) := by
  by_cases large : count < 2 ^ format.fractionBits
  · have same : format.units count = count := by rw [units, if_pos large]
    have step := units_lt_succ format count
    rw [floorRank, if_pos large]
    rw [same] at step ⊢
    exact ⟨Nat.le_refl count, step⟩
  · obtain ⟨exponent, floor, low, high⟩ := exists_floorRank_eq format large
    have magnitude := units_mul_add format exponent low high
    have block := mul_add_div_eq exponent low high
    have divided := Nat.div_add_mod count (2 ^ exponent)
    have remainder := Nat.mod_lt count (Nat.two_pow_pos exponent)
    rw [Nat.mul_comm] at divided
    rw [floor, units_succ, block, magnitude, Nat.add_sub_cancel]
    constructor
    · omega
    · omega

/-- A quotient lies between the midpoints to the neighbours of a rank.  The midpoints
themselves belong to the rank if it is even. -/
structure RoundsTo (format : Format) (rank numerator denominator : Nat) : Prop where
  low : (format.units (rank - 1) + format.units rank) * denominator < 2 * numerator ∨
    (rank % 2 = 0 ∧
      (format.units (rank - 1) + format.units rank) * denominator = 2 * numerator)
  high : 2 * numerator < (format.units rank + format.units (rank + 1)) * denominator ∨
    (rank % 2 = 0 ∧
      2 * numerator = (format.units rank + format.units (rank + 1)) * denominator)

/-- The floor of a quotient of that interval is the rank or the one before. -/
theorem RoundsTo.floorRank_cases {rank numerator denominator : Nat}
    (rounds : format.RoundsTo rank numerator denominator) (positive : 0 < denominator)
    (nonzero : 0 < rank) :
    format.floorRank (numerator / denominator) = rank ∨
      format.floorRank (numerator / denominator) + 1 = rank := by
  obtain ⟨below, above⟩ := floorRank_spec format (numerator / denominator)
  generalize format.floorRank (numerator / denominator) = floor at below above ⊢
  have low : (format.units (rank - 1) + format.units rank) * denominator ≤ 2 * numerator := by
    rcases rounds.low with strict | ⟨-, tie⟩ <;> omega
  have high : 2 * numerator ≤ (format.units rank + format.units (rank + 1)) * denominator := by
    rcases rounds.high with strict | ⟨-, tie⟩ <;> omega
  have floorLe : format.units floor * denominator ≤ numerator :=
    (Nat.le_div_iff_mul_le positive).1 below
  have ltNext : numerator < format.units (floor + 1) * denominator :=
    (Nat.div_lt_iff_lt_mul positive).1 above
  rw [Nat.add_mul] at low high
  have notAbove : floor < rank + 1 := by
    apply lt_of_units_lt_units format
    have step := Nat.mul_lt_mul_of_pos_right (units_lt_succ format rank) positive
    exact Nat.lt_of_mul_lt_mul_right (a := denominator) (by omega)
  have notBelow : rank - 1 < floor + 1 := by
    apply lt_of_units_lt_units format
    have before : rank - 1 < rank := by omega
    have step := Nat.mul_lt_mul_of_pos_right (units_lt_units format before) positive
    exact Nat.lt_of_mul_lt_mul_right (a := denominator) (by omega)
  omega

/-- Rounding finds the rank in whose interval a quotient lies. -/
theorem nearest_eq_of_roundsTo {rank numerator denominator : Nat}
    (rounds : format.RoundsTo rank numerator denominator) (positive : 0 < denominator)
    (nonzero : 0 < rank) : format.nearest numerator denominator = rank := by
  unfold nearest
  simp only [Nat.mul_comm denominator]
  rcases rounds.floorRank_cases positive nonzero with same | before
  · rw [same]
    rcases rounds.high with strict | ⟨even, tie⟩
    · rw [if_pos strict]
    · rw [if_neg (by omega), if_neg (by omega), if_pos even]
  · have previous : format.floorRank (numerator / denominator) = rank - 1 := by omega
    have next : rank - 1 + 1 = rank := by omega
    rw [previous, next]
    rcases rounds.low with strict | ⟨even, tie⟩
    · rw [if_neg (by omega), if_pos strict]
    · rw [if_neg (by omega), if_neg (by omega), if_neg (by omega)]

/-- A quotient is rounded to its floor or to the rank behind it. -/
theorem nearest_eq_or (format : Format) (numerator denominator : Nat) :
    format.nearest numerator denominator = format.floorRank (numerator / denominator) ∨
      format.nearest numerator denominator = format.floorRank (numerator / denominator) + 1 := by
  simp only [nearest]
  split
  · exact .inl rfl
  split
  · exact .inr rfl
  split
  · exact .inl rfl
  · exact .inr rfl

/-- A quotient is rounded to its floor up to the midpoint to the next rank.  The midpoint itself
is rounded to the even of the two. -/
theorem nearest_eq_floorRank_iff {numerator denominator rank : Nat}
    (floor : format.floorRank (numerator / denominator) = rank) :
    format.nearest numerator denominator = rank ↔
      2 * numerator < (format.units rank + format.units (rank + 1)) * denominator ∨
        (rank % 2 = 0 ∧
          2 * numerator = (format.units rank + format.units (rank + 1)) * denominator) := by
  simp only [nearest, floor, Nat.mul_comm denominator]
  generalize (format.units rank + format.units (rank + 1)) * denominator = middle
  split
  · omega
  split
  · omega
  split
  · omega
  · omega

/-- A quotient is rounded to a rank or below it just if it does not lie beyond the midpoint to
the next rank. -/
theorem nearest_le_iff {rank numerator denominator : Nat} (positive : 0 < denominator) :
    format.nearest numerator denominator ≤ rank ↔
      2 * numerator < (format.units rank + format.units (rank + 1)) * denominator ∨
        (rank % 2 = 0 ∧
          2 * numerator = (format.units rank + format.units (rank + 1)) * denominator) := by
  obtain ⟨below, above⟩ := floorRank_spec format (numerator / denominator)
  have candidates := nearest_eq_or format numerator denominator
  have atFloor : format.nearest numerator denominator =
      format.floorRank (numerator / denominator) ↔ _ := nearest_eq_floorRank_iff rfl
  generalize format.floorRank (numerator / denominator) = floor at below above candidates atFloor
  have floorLe : format.units floor * denominator ≤ numerator :=
    (Nat.le_div_iff_mul_le positive).1 below
  have ltNext : numerator < format.units (floor + 1) * denominator :=
    (Nat.div_lt_iff_lt_mul positive).1 above
  rcases Nat.lt_trichotomy floor rank with less | rfl | more
  · -- Even the magnitude behind the floor is at most that of the rank.
    have next : format.units (floor + 1) * denominator ≤ format.units rank * denominator :=
      Nat.mul_le_mul_right denominator (units_le_units format less)
    have step : format.units rank * denominator ≤ format.units (rank + 1) * denominator :=
      Nat.mul_le_mul_right denominator (units_le_units format (Nat.le_succ rank))
    refine iff_of_true (by omega) (.inl ?_)
    rw [Nat.add_mul]
    omega
  · rw [← atFloor]
    omega
  · -- The quotient is at least the magnitude behind the rank.
    have reached : format.units (rank + 1) * denominator ≤ format.units floor * denominator :=
      Nat.mul_le_mul_right denominator (units_le_units format more)
    have step := Nat.mul_lt_mul_of_pos_right (units_lt_succ format rank) positive
    refine iff_of_false (by omega) ?_
    rw [Nat.add_mul]
    rintro (beyond | ⟨-, tie⟩) <;> omega

end Settings.Format
