import Settings.Binary.Shortest
import Settings.Proofs.Binary.Decimals
import Settings.Proofs.Binary.Nearest
import Settings.Proofs.Literals
import Settings.Proofs.Numerals

/-!
The text of a binary number reads back as the number.

Every decimal that the search for shortest digits can return lies in the interval of
the rank it was made for, whichever grid it came from and whichever way a tie went
(`roundsTo_shortest`).  Positional notation keeps the value of a decimal, so the
reader sees a quotient of the same interval and rounds it to the same rank.
-/

namespace Settings

namespace Binary

variable {format : Format}

/-! ### The digits that are chosen -/

/-- Which point of a grid was hit: the one below the number or the one above it, each only
if it lies in the interval of the rank. -/
theorem gridPoint?_eq_some {tie : Tie} {rank coefficient : Nat} {exponent : Int}
    (hit : gridPoint? format tie rank exponent = some coefficient) {fine step : Nat}
    (hfine : fine = 10 ^ (-exponent).toNat)
    (hstep : step = 10 ^ exponent.toNat * 2 ^ (format.scale + 1)) :
    (coefficient = 2 * format.units rank * fine / step ∧
      ((format.units (rank - 1) + format.units rank) * fine < coefficient * step ∨
        (rank % 2 = 0 ∧
          (format.units (rank - 1) + format.units rank) * fine = coefficient * step))) ∨
    (coefficient = 2 * format.units rank * fine / step + 1 ∧
      (coefficient * step < (format.units rank + format.units (rank + 1)) * fine ∨
        (rank % 2 = 0 ∧
          coefficient * step = (format.units rank + format.units (rank + 1)) * fine))) := by
  unfold gridPoint? at hit
  simp only [← hfine, ← hstep] at hit
  generalize 2 * format.units rank * fine / step = below at hit ⊢
  split at hit
  · next both =>
      simp only [Bool.and_eq_true, Bool.or_eq_true, decide_eq_true_eq, beq_iff_eq] at both
      have either : coefficient = below ∨ coefficient = below + 1 := by
        cases tie <;> grind
      rcases either with rfl | rfl
      · exact .inl ⟨rfl, both.1⟩
      · exact .inr ⟨rfl, both.2⟩
  split at hit
  · next hitsBelow =>
      simp only [Bool.and_eq_true, Bool.or_eq_true, decide_eq_true_eq, beq_iff_eq] at hitsBelow
      cases hit
      exact .inl ⟨rfl, hitsBelow⟩
  split at hit
  · next hitsAbove =>
      simp only [Bool.and_eq_true, Bool.or_eq_true, decide_eq_true_eq, beq_iff_eq] at hitsAbove
      cases hit
      exact .inr ⟨rfl, hitsAbove⟩
  · cases hit

/-- A point of a grid that was hit rounds to the rank. -/
theorem roundsTo_gridPoint {tie : Tie} {rank coefficient : Nat} {exponent : Int}
    (nonzero : 0 < rank) (hit : gridPoint? format tie rank exponent = some coefficient) :
    format.RoundsTo rank ((Decimal.mk coefficient exponent).numerator * 2 ^ format.scale)
      (Decimal.mk coefficient exponent).denominator := by
  have cases := gridPoint?_eq_some hit rfl rfl
  have doubled : coefficient * (10 ^ exponent.toNat * 2 ^ (format.scale + 1)) =
      2 * (coefficient * 10 ^ exponent.toNat * 2 ^ format.scale) := by
    rw [Nat.pow_succ, Nat.mul_left_comm 2, Nat.mul_assoc, Nat.mul_comm 2]
  have fine : 0 < 10 ^ (-exponent).toNat := Nat.pow_pos (by decide)
  have step : 0 < 10 ^ exponent.toNat * 2 ^ (format.scale + 1) :=
    Nat.mul_pos (Nat.pow_pos (by decide)) (Nat.two_pow_pos _)
  have before : format.units (rank - 1) < format.units rank :=
    Format.units_lt_units format (by omega)
  have after := Format.units_lt_succ format rank
  have low := Nat.mul_lt_mul_of_pos_right
    (show format.units (rank - 1) + format.units rank < 2 * format.units rank by omega) fine
  have high := Nat.mul_lt_mul_of_pos_right
    (show 2 * format.units rank < format.units rank + format.units (rank + 1) by omega) fine
  unfold Decimal.numerator Decimal.denominator
  rcases cases with ⟨point, inside⟩ | ⟨point, inside⟩
  · -- The point below is at most the number itself.
    have below := Nat.div_mul_le_self (2 * format.units rank * 10 ^ (-exponent).toNat)
      (10 ^ exponent.toNat * 2 ^ (format.scale + 1))
    rw [← point, doubled] at below
    rw [doubled] at inside
    exact ⟨inside, .inl (Nat.lt_of_le_of_lt below high)⟩
  · -- The point above is larger than the number itself.
    have above := (Nat.div_lt_iff_lt_mul step).1
      (show 2 * format.units rank * 10 ^ (-exponent).toNat /
        (10 ^ exponent.toNat * 2 ^ (format.scale + 1)) < coefficient by omega)
    rw [doubled] at above
    rw [doubled] at inside
    exact ⟨.inl (Nat.lt_trans low above), inside⟩

/-- The exact expansion, where the search ends without a hit, rounds to the rank too. -/
theorem roundsTo_exact {rank : Nat} (nonzero : 0 < rank) :
    format.RoundsTo rank
      ((Decimal.mk (format.units rank * 5 ^ format.scale) (-(format.scale : Int))).numerator *
        2 ^ format.scale)
      (Decimal.mk (format.units rank * 5 ^ format.scale) (-(format.scale : Int))).denominator := by
  have before : format.units (rank - 1) < format.units rank :=
    Format.units_lt_units format (by omega)
  have after := Format.units_lt_succ format rank
  have fine : 0 < 10 ^ format.scale := Nat.pow_pos (by decide)
  have exponent : (-(format.scale : Int)).toNat = 0 := by omega
  have ten : 5 ^ format.scale * 2 ^ format.scale = 10 ^ format.scale := by
    rw [← Nat.mul_pow]
  have whole : format.units rank * 5 ^ format.scale * 10 ^ 0 * 2 ^ format.scale =
      format.units rank * 10 ^ format.scale := by
    rw [Nat.pow_zero, Nat.mul_one, Nat.mul_assoc, ten]
  have low := Nat.mul_lt_mul_of_pos_right
    (show format.units (rank - 1) + format.units rank < 2 * format.units rank by omega) fine
  have high := Nat.mul_lt_mul_of_pos_right
    (show 2 * format.units rank < format.units rank + format.units (rank + 1) by omega) fine
  rw [Nat.mul_assoc] at low high
  simp only [Decimal.numerator, Decimal.denominator, exponent, Int.neg_neg, Int.toNat_natCast,
    whole]
  exact ⟨.inl low, .inl high⟩

theorem roundsTo_shortestFrom (tie : Tie) {rank : Nat} (nonzero : 0 < rank) (grids : Nat) :
    format.RoundsTo rank ((shortestFrom format tie rank grids).numerator * 2 ^ format.scale)
      (shortestFrom format tie rank grids).denominator := by
  induction grids with
  | zero => exact roundsTo_exact nonzero
  | succ grids ih =>
      simp only [shortestFrom]
      split
      · next hit => exact roundsTo_gridPoint nonzero hit
      · exact ih

/-- The shortest digits of a rank round to the rank. -/
theorem roundsTo_shortest (tie : Tie) {rank : Nat} (nonzero : 0 < rank) :
    format.RoundsTo rank ((shortest format tie rank).numerator * 2 ^ format.scale)
      (shortest format tie rank).denominator :=
  roundsTo_shortestFrom tie nonzero _

end Binary

/-! ### Positional notation -/

namespace Decimal

/-- The decimal as positional notation shows it, with no exponent above zero. -/
def written (decimal : Decimal) : Decimal :=
  ⟨decimal.numerator, -((-decimal.exponent).toNat : Int)⟩

/-- Digits before and behind a point, which is left out if nothing stands behind it. -/
def pointed (whole places : List Char) : List Char :=
  if places = [] then whole else whole ++ '.' :: places

/-- Digits before and behind a point that show a decimal: their value is the numerator, and
as many stand behind the point as the denominator has zeros. -/
structure ShownBy (decimal : Decimal) (whole places : List Char) : Prop where
  nonempty : whole ≠ []
  numeric : ∀ c ∈ whole ++ places, c.isDigit = true
  value : Text.digitsValue (whole ++ places) = decimal.numerator
  count : places.length = (-decimal.exponent).toNat

theorem isDigit_of_mem_zeros {n : Nat} {c : Char} (member : c ∈ List.replicate n '0') :
    c.isDigit = true := by
  rw [List.eq_of_mem_replicate member]
  rfl

theorem numerator_of_places {decimal : Decimal} (places : ¬(-decimal.exponent).toNat = 0) :
    decimal.numerator = decimal.coefficient := by
  have exponent : decimal.exponent.toNat = 0 := by omega
  rw [numerator, exponent, Nat.pow_zero, Nat.mul_one]

/-- A whole number is shown by its digits and the zeros of its exponent. -/
theorem shownBy_zeros {decimal : Decimal} (noPlaces : (-decimal.exponent).toNat = 0) :
    decimal.ShownBy
      (Text.ofNat decimal.coefficient ++ List.replicate decimal.exponent.toNat '0') [] where
  nonempty := by simp [Text.ofNat_ne_nil]
  numeric := by
    intro c member
    rw [List.append_nil] at member
    rcases List.mem_append.1 member with digit | zero
    · exact Text.isDigit_of_mem_ofNat digit
    · exact isDigit_of_mem_zeros zero
  value := by
    have value : Nat.ofDigitChars 10 (Text.ofNat decimal.coefficient) 0 = decimal.coefficient :=
      Text.digitsValue_ofNat _
    simp [numerator, Text.digitsValue, Nat.ofDigitChars_append, value, Nat.mul_comm]
  count := noPlaces.symm

/-- A point among the digits. -/
theorem shownBy_split {decimal : Decimal} (places : ¬(-decimal.exponent).toNat = 0)
    (inside : (-decimal.exponent).toNat < (Text.ofNat decimal.coefficient).length) :
    decimal.ShownBy
      ((Text.ofNat decimal.coefficient).take
        ((Text.ofNat decimal.coefficient).length - (-decimal.exponent).toNat))
      ((Text.ofNat decimal.coefficient).drop
        ((Text.ofNat decimal.coefficient).length - (-decimal.exponent).toNat)) where
  nonempty := by
    rw [ne_eq, List.take_eq_nil_iff]
    intro none
    rcases none with zero | empty
    · omega
    · exact Text.ofNat_ne_nil _ empty
  numeric := by
    rw [List.take_append_drop]
    exact fun c => Text.isDigit_of_mem_ofNat
  value := by
    rw [List.take_append_drop, Text.digitsValue_ofNat, numerator_of_places places]
  count := by
    rw [List.length_drop]
    omega

/-- Digits that all stand behind the point, after zeros that fill their places. -/
theorem shownBy_filled {decimal : Decimal} (places : ¬(-decimal.exponent).toNat = 0)
    (outside : ¬(-decimal.exponent).toNat < (Text.ofNat decimal.coefficient).length) :
    decimal.ShownBy ['0']
      (List.replicate ((-decimal.exponent).toNat - (Text.ofNat decimal.coefficient).length) '0' ++
        Text.ofNat decimal.coefficient) where
  nonempty := by simp
  numeric := by
    intro c member
    rw [List.singleton_append] at member
    rcases List.mem_cons.1 member with rfl | inside
    · rfl
    rcases List.mem_append.1 inside with zero | digit
    · exact isDigit_of_mem_zeros zero
    · exact Text.isDigit_of_mem_ofNat digit
  value := by
    have value : Nat.ofDigitChars 10 (Text.ofNat decimal.coefficient) 0 = decimal.coefficient :=
      Text.digitsValue_ofNat _
    rw [numerator_of_places places]
    simp [Text.digitsValue, Nat.ofDigitChars_cons, Nat.ofDigitChars_append, value]
  count := by
    rw [List.length_append, List.length_replicate]
    omega

/-- Positional notation shows a decimal by its digits. -/
theorem exists_positional_eq_pointed (decimal : Decimal) :
    ∃ whole places, decimal.positional = pointed whole places ∧
      decimal.ShownBy whole places := by
  unfold positional
  simp only
  split
  · next noPlaces => exact ⟨_, [], rfl, shownBy_zeros noPlaces⟩
  next somePlaces =>
  split
  · next inside =>
      have shown := shownBy_split somePlaces inside
      refine ⟨_, _, ?_, shown⟩
      rw [pointed, if_neg]
      intro empty
      have count := shown.count
      rw [empty] at count
      exact somePlaces count.symm
  · next outside =>
      refine ⟨_, _, ?_, shownBy_filled somePlaces outside⟩
      simp [pointed, Text.ofNat_ne_nil]

end Decimal

namespace Literal

/-- Digits around a point are read as the number they show. -/
theorem readDecimal?_pointed {whole places : List Char}
    (numeric : ∀ c ∈ whole ++ places, c.isDigit = true) (nonempty : whole ≠ []) :
    readDecimal? (Decimal.pointed whole places) =
      some ⟨Text.digitsValue (whole ++ places), -(places.length : Int)⟩ := by
  have run : IsNumeric (whole ++ places) :=
    ⟨fun empty => nonempty (List.append_eq_nil_iff.1 empty).1, numeric⟩
  have exponent : (0 : Int) - places.length = -(places.length : Int) := Int.zero_sub _
  unfold Decimal.pointed
  split
  · next noPlaces =>
      subst noPlaces
      rw [List.append_nil] at run ⊢
      have read := readDecimal?_of_figures (.whole run) .absent
      rwa [List.append_nil] at read
  · have read := readDecimal?_of_figures (.pointed run) .absent
    rwa [List.append_nil, exponent] at read

theorem readDecimal?_positional (decimal : Decimal) :
    readDecimal? decimal.positional = some decimal.written := by
  obtain ⟨whole, places, layout, shown⟩ := decimal.exists_positional_eq_pointed
  rw [layout, readDecimal?_pointed shown.numeric shown.nonempty, shown.value, shown.count]
  rfl

/-- Positional notation begins with a digit, and holds digits and at most a point. -/
theorem exists_positional_eq_cons (decimal : Decimal) :
    ∃ c rest, decimal.positional = c :: rest ∧ c.isDigit = true ∧
      ∀ d ∈ rest, d.isDigit = true ∨ d = '.' := by
  obtain ⟨whole, places, layout, nonempty, numeric, -, -⟩ := decimal.exists_positional_eq_pointed
  cases whole with
  | nil => exact absurd rfl nonempty
  | cons c more =>
      have first : c.isDigit = true := numeric c (by simp)
      rw [layout, Decimal.pointed]
      split
      · refine ⟨c, more, rfl, first, fun d member => .inl (numeric d (by simp [member]))⟩
      · refine ⟨c, more ++ '.' :: places, rfl, first, ?_⟩
        intro d member
        rcases List.mem_append.1 member with inside | inside
        · exact .inl (numeric d (by simp [inside]))
        rcases List.mem_cons.1 inside with point | inside
        · exact .inr point
        · exact .inl (numeric d (by simp [inside]))

end Literal

/-! ### Reading the digits -/

namespace Binary

variable {format : Format}

/-- A decimal in the interval of a rank is read as that rank. -/
theorem ofDecimal_of_roundsTo (moderate : format.Moderate) (negative : Bool)
    {rank coefficient places : Nat} (nonzero : 0 < rank) (inRange : rank < format.limit)
    (rounds : format.RoundsTo rank (coefficient * 2 ^ format.scale) (10 ^ places)) :
    (ofDecimal negative ⟨coefficient, -(places : Int)⟩ : Binary format) =
      ofRank negative rank := by
  have ten : 0 < 10 ^ places := Nat.pow_pos (by decide)
  have low : 10 ^ places ≤ coefficient * 2 ^ (format.scale + 1) := by
    have before : format.units (rank - 1) < format.units rank :=
      Format.units_lt_units format (by omega)
    have one := Nat.mul_le_mul_right (10 ^ places)
      (show 1 ≤ format.units (rank - 1) + format.units rank by omega)
    rw [Nat.pow_succ, ← Nat.mul_assoc, Nat.mul_comm _ 2]
    rcases rounds.low with strict | ⟨-, tie⟩
    · omega
    · omega
  have high : coefficient * 2 ^ format.scale ≤ format.units format.limit * 10 ^ places := by
    have here := Format.units_le_units format (Nat.le_of_lt inRange)
    have next : format.units (rank + 1) ≤ format.units format.limit :=
      Format.units_le_units format inRange
    have whole := Nat.mul_le_mul_right (10 ^ places)
      (show format.units rank + format.units (rank + 1) ≤ 2 * format.units format.limit by
        omega)
    rw [Nat.mul_assoc] at whole
    rcases rounds.high with strict | ⟨-, tie⟩
    · omega
    · omega
  have some : coefficient ≠ 0 := by
    rintro rfl
    rw [Nat.zero_mul] at low
    exact Nat.not_le.2 ten low
  have numerator : coefficient * 10 ^ (-(places : Int)).toNat = coefficient := by
    have exponent : (-(places : Int)).toNat = 0 := by omega
    rw [exponent, Nat.pow_zero, Nat.mul_one]
  have denominator : (-(-(places : Int))).toNat = places := by omega
  have notFar : ¬farExponent < (Decimal.mk coefficient (-(places : Int))).leading := by
    intro far
    have beyond := Decimal.units_limit_lt_of_far moderate some far
    simp only [Decimal.numerator, Decimal.denominator, numerator, denominator] at beyond
    exact Nat.not_le.2 beyond high
  have notNear : ¬(Decimal.mk coefficient (-(places : Int))).leading < -farExponent := by
    intro near
    have below := Decimal.lt_denominator_of_near moderate near
    simp only [Decimal.numerator, Decimal.denominator, numerator, denominator] at below
    exact Nat.not_le.2 below low
  rw [ofDecimal, if_neg some, if_neg notFar, if_neg notNear]
  simp only [numerator, denominator, Format.nearest_eq_of_roundsTo rounds ten nonzero]

/-- The shortest digits of a rank are read as the rank. -/
theorem ofDecimal_shortest (moderate : format.Moderate) (tie : Tie) (negative : Bool)
    {rank : Nat} (nonzero : 0 < rank) (inRange : rank < format.limit) :
    (ofDecimal negative (shortest format tie rank).written : Binary format) =
      ofRank negative rank :=
  ofDecimal_of_roundsTo moderate negative nonzero inRange (roundsTo_shortest tie nonzero)

end Binary

namespace Literal

variable {format : Format}

/-- A sign in front of a text that begins with a digit. -/
theorem splitSign_of_isDigit (negative : Bool) {c : Char} (digit : c.isDigit = true)
    (rest : List Char) :
    splitSign (if negative then '-' :: c :: rest else c :: rest) = (negative, c :: rest) := by
  cases negative with
  | true => rfl
  | false =>
      have noSign : ∀ sign : Char, sign.isDigit = false → c ≠ sign := by
        rintro sign other rfl
        rw [digit] at other
        cases other
      exact splitSign_cons (noSign '-' rfl) (noSign '+' rfl) rest

/-- Positional notation behind an optional sign is a literal. -/
theorem signed_positional (negative : Bool) (decimal : Decimal) :
    Signed (if negative then '-' :: decimal.positional else decimal.positional) negative
      (.decimal decimal.written) := by
  obtain ⟨c, rest, layout, digit, -⟩ := exists_positional_eq_cons decimal
  have read := readDecimal?_positional decimal
  rw [layout] at read ⊢
  rw [signed_iff, splitSign_of_isDigit negative digit, readNumeral?_cons (.inl digit), read]
  exact ⟨rfl, rfl⟩

/-- Positional notation behind an optional sign is read as the number nearest to it, unless
that is infinite, or zero without the digits saying so. -/
theorem readBinary_positional (negative : Bool) (decimal : Decimal) {value : Binary format}
    (rounds : Binary.ofDecimal negative decimal.written = value)
    (finite : value.isInfinite = false)
    (sayable : decimal.numerator = 0 ∨ value.isZero = false) :
    readBinary (if negative then '-' :: decimal.positional else decimal.positional) =
      .ok value := by
  have signed := signed_positional negative decimal
  rw [readBinary_eq_ok_iff, signed.contradicts_iff, finite]
  refine ⟨readRounded?_eq_some_iff.2 ⟨_, _, signed, rounds⟩, ?_⟩
  rintro (infinite | ⟨isZero, nonzero⟩)
  · cases infinite
  rcases sayable with zero | notZero
  · exact nonzero zero
  · rw [notZero] at isZero
    cases isZero

/-- The text of a number is read as the number, its sign included. -/
theorem readBinary_text (moderate : format.Moderate) {value : Binary format}
    (number : value ≠ .nan) : readBinary value.text.toList = .ok value := by
  cases value with
  | nan => exact absurd rfl number
  | infinite negative =>
      cases negative with
      | true =>
          rw [Binary.text]
          rfl
      | false =>
          rw [Binary.text]
          rfl
  | finite negative rank =>
      rw [Binary.text, String.toList_ofList]
      by_cases zero : rank.val = 0
      · have same : rank = ⟨0, by have := rank.isLt; omega⟩ := Fin.ext zero
        have decimal : ['0'] = (Decimal.mk 0 0).positional := by decide
        simp only [zero, if_true, decimal]
        apply readBinary_positional
        · rw [Binary.ofDecimal, if_pos (by rfl), Binary.ofRank, dif_pos, same]
        · rfl
        · exact .inl rfl
      · have positive : 0 < rank.val := Nat.pos_of_ne_zero zero
        have finite : (Binary.ofRank negative rank.val : Binary format) =
            .finite negative rank := by
          rw [Binary.ofRank, dif_pos rank.isLt]
        simp only [zero, if_false]
        apply readBinary_positional
        · rw [Binary.ofDecimal_shortest moderate .up negative positive rank.isLt, finite]
        · rfl
        · exact .inr (by simp [Binary.isZero, zero])

theorem hasBlankEnd_text (value : Binary format) :
    Text.hasBlankEnd value.text.toList = false := by
  have solid : ∀ decimal : Decimal, ∀ c ∈ decimal.positional, Text.isSpace c = false := by
    intro decimal c member
    obtain ⟨first, rest, layout, digit, others⟩ := exists_positional_eq_cons decimal
    rw [layout] at member
    rcases List.mem_cons.1 member with rfl | member
    · exact Text.isSpace_of_isDigit digit
    rcases others c member with digit | rfl
    · exact Text.isSpace_of_isDigit digit
    · rfl
  cases value with
  | nan =>
      rw [Binary.text]
      decide
  | infinite negative =>
      cases negative with
      | true =>
          rw [Binary.text]
          decide
      | false =>
          rw [Binary.text]
          decide
  | finite negative rank =>
      have magnitude : ∀ c ∈ (if rank.val = 0 then ['0'] else
          (Binary.shortest format .up rank).positional), Text.isSpace c = false := by
        split
        · intro c member
          rw [List.mem_singleton.1 member]
          rfl
        · exact solid _
      apply Text.hasBlankEnd_of_forall
      intro c member
      rw [Binary.text, String.toList_ofList] at member
      split at member
      · rcases List.mem_cons.1 member with rfl | member
        · rfl
        · exact magnitude c member
      · exact magnitude c member

/-- The text of a number is read as the number. -/
theorem readAs_readBinary_text (moderate : format.Moderate) (target : Target)
    {value : Binary format} (number : value ≠ .nan) :
    readAs target readBinary value.text = .ok value :=
  readAs_eq_ok (hasBlankEnd_text value) (readBinary_text moderate number)

end Literal

end Settings
