import Settings.Proofs.Binary.Extremes
import Settings.Proofs.Literals
import Settings.Proofs.Numerals
import Settings.Proofs.Traversals

/-!
Texts of floating-point numbers, and how coercions guard them against loss.

A decimal is rounded to the nearest number of its type, and what lies too far out is rounded to
zero or to an infinity.  A coercion lets that happen to no decimal other than zero: such a
decimal is out of range, and zero and the infinities are the values of just those texts that
spell them.  The decimals that are out of range are those up to one threshold or from another
one on, each with its exact place.
-/

namespace Settings

namespace Value

/-- Zero of either precision and either sign. -/
def isZero : Value → Bool
  | .float number => number.isZero
  | .double number => number.isZero
  | _ => false

/-- An infinity of either precision and either sign. -/
def isInfinite : Value → Bool
  | .float number => number.isInfinite
  | .double number => number.isInfinite
  | _ => false

end Value

namespace Literal

/-! ### Reading -/

section

variable {format : Format} {text : List Char}

/-- What is rounded to zero without a contradiction is a decimal that is zero. -/
theorem exists_readBinary_isZero_iff (moderate : format.Moderate) (limited : format.Limited) :
    (∃ number : Binary format, readBinary text = .ok number ∧ number.isZero = true) ↔
      ∃ negative decimal, Signed text negative (.decimal decimal) ∧ decimal.toRat = 0 := by
  simp only [readBinary_eq_ok_iff, readRounded?_eq_some_iff]
  constructor
  · rintro ⟨number, ⟨⟨negative, numeral, signed, rfl⟩, kept⟩, zero⟩
    cases numeral with
    | nan => cases zero
    | infinite => cases zero
    | decimal decimal =>
        rw [signed.contradicts_iff] at kept
        refine ⟨negative, decimal, signed, Decimal.toRat_eq_zero_iff.2 ?_⟩
        by_contra nonzero
        exact kept (.inr ⟨zero, nonzero⟩)
  · rintro ⟨negative, decimal, signed, zero⟩
    have isZero : (Binary.ofDecimal negative decimal : Binary format).isZero = true := by
      rw [Binary.isZero_ofDecimal_iff moderate limited, zero]
      exact le_of_lt format.tiny_pos
    refine ⟨_, ⟨⟨negative, _, signed, rfl⟩, ?_⟩, isZero⟩
    rw [signed.contradicts_iff, roundNumeral,
      Binary.isInfinite_ofDecimal_iff moderate limited, zero]
    rintro (infinite | ⟨-, nonzero⟩)
    · exact absurd infinite (not_le.2 (lt_trans format.tiny_pos (Format.tiny_lt_huge limited)))
    · exact nonzero (Decimal.toRat_eq_zero_iff.1 zero)

/-- What is rounded to an infinity without a contradiction is one of the words for it. -/
theorem exists_readBinary_isInfinite_iff :
    (∃ number : Binary format, readBinary text = .ok number ∧ number.isInfinite = true) ↔
      ∃ negative, Signed text negative .infinite := by
  simp only [readBinary_eq_ok_iff, readRounded?_eq_some_iff]
  constructor
  · rintro ⟨number, ⟨⟨negative, numeral, signed, rfl⟩, kept⟩, infinite⟩
    cases numeral with
    | nan => cases infinite
    | infinite => exact ⟨negative, signed⟩
    | decimal decimal =>
        rw [signed.contradicts_iff] at kept
        exact absurd (.inl infinite) kept
  · rintro ⟨negative, signed⟩
    exact ⟨_, ⟨⟨negative, _, signed, rfl⟩, signed.not_contradicts⟩, rfl⟩

/-- What is rounded with a contradiction is a decimal other than zero beyond the thresholds. -/
theorem readBinary_eq_outOfRange_iff_toRat (moderate : format.Moderate)
    (limited : format.Limited) :
    (readBinary text : Except ReadFailure (Binary format)) = .error .outOfRange ↔
      ∃ negative decimal, Signed text negative (.decimal decimal) ∧ decimal.toRat ≠ 0 ∧
        (decimal.toRat ≤ format.tiny ∨ format.huge ≤ decimal.toRat) := by
  have lost : ∀ {negative decimal}, Signed text negative (.decimal decimal) →
      (Contradicts text (Binary.ofDecimal negative decimal : Binary format) ↔
        decimal.toRat ≠ 0 ∧ (decimal.toRat ≤ format.tiny ∨ format.huge ≤ decimal.toRat)) := by
    intro negative decimal signed
    rw [signed.contradicts_iff, Binary.isZero_ofDecimal_iff moderate limited,
      Binary.isInfinite_ofDecimal_iff moderate limited, ne_eq decimal.coefficient,
      ← Decimal.toRat_eq_zero_iff]
    constructor
    · rintro (infinite | ⟨zero, nonzero⟩)
      · refine ⟨fun zero => ?_, .inr infinite⟩
        rw [zero] at infinite
        exact absurd infinite (not_le.2 (lt_trans format.tiny_pos (Format.tiny_lt_huge limited)))
      · exact ⟨nonzero, .inl zero⟩
    · rintro ⟨nonzero, zero | infinite⟩
      · exact .inr ⟨zero, nonzero⟩
      · exact .inl infinite
  simp only [readBinary_eq_outOfRange_iff, readRounded?_eq_some_iff]
  constructor
  · rintro ⟨number, ⟨negative, numeral, signed, rfl⟩, contradicts⟩
    cases numeral with
    | nan =>
        rcases contradicts with infinite | zero
        · cases infinite.1
        · cases zero.1
    | infinite => exact absurd contradicts signed.not_contradicts
    | decimal decimal => exact ⟨negative, decimal, signed, (lost signed).1 contradicts⟩
  · rintro ⟨negative, decimal, signed, beyond⟩
    exact ⟨_, ⟨negative, _, signed, rfl⟩, (lost signed).2 beyond⟩

end

end Literal

/-! ### Coercions to floating-point numbers -/

/-- The types of floating-point numbers. -/
inductive FloatType where
  | float
  | double

namespace FloatType

/-- The type as a type of values. -/
def tag : FloatType → Tag
  | .float => .float
  | .double => .double

/-- What literals of the type are read as. -/
def target : FloatType → Target
  | .float => .float
  | .double => .double

/-- The format of the numbers of the type. -/
def format : FloatType → Format
  | .float => .single
  | .double => .double

/-- The value of a number. -/
def value : (type : FloatType) → Binary type.format → Value
  | .float, number => .float number
  | .double, number => .double number

/-- Decimals up to here are rounded to zero. -/
def tiny : FloatType → ℚ
  | .float => 1 / 2 ^ 150
  | .double => 1 / 2 ^ 1075

/-- Decimals from here on are rounded to an infinity. -/
def huge : FloatType → ℚ
  | .float => 2 ^ 128 - 2 ^ 103
  | .double => 2 ^ 1024 - 2 ^ 970

theorem moderate (type : FloatType) : type.format.Moderate := by
  cases type with
  | float => exact Format.moderate_single
  | double => exact Format.moderate_double

theorem limited (type : FloatType) : type.format.Limited := by
  cases type with
  | float => exact Format.limited_single
  | double => exact Format.limited_double

theorem tiny_format (type : FloatType) : type.format.tiny = type.tiny := by
  cases type with
  | float => exact Format.tiny_single
  | double => exact Format.tiny_double

theorem huge_format (type : FloatType) : type.format.huge = type.huge := by
  cases type with
  | float => exact Format.huge_single
  | double => exact Format.huge_double

theorem isZero_value (type : FloatType) (number : Binary type.format) :
    (type.value number).isZero = number.isZero := by
  cases type <;> rfl

theorem isInfinite_value (type : FloatType) (number : Binary type.format) :
    (type.value number).isInfinite = number.isInfinite := by
  cases type <;> rfl

/-- Coercing a text is reading a number without the white space at the ends. -/
theorem coerce_text (type : FloatType) (text : String) :
    coerce type.tag (.text text) =
      (readAs type.target Literal.readBinary text).map type.value := by
  cases type <;> rfl

/-- The coercion of a text to the type guards it against loss: zero and the infinities are the
values of the texts that spell them, a decimal other than zero that is rounded to zero or to an
infinity is out of range, and only texts that are no literals are unreadable. -/
structure Guards (type : FloatType) (text : String) : Prop where
  zero : (∃ value, coerce type.tag (.text text) = .ok value ∧ value.isZero = true) ↔
    ∃ negative decimal, Literal.Signed (Text.trim text.toList) negative (.decimal decimal) ∧
      decimal.toRat = 0
  infinite : (∃ value, coerce type.tag (.text text) = .ok value ∧ value.isInfinite = true) ↔
    ∃ negative, Literal.Signed (Text.trim text.toList) negative .infinite
  outOfRange : coerce type.tag (.text text) =
      .error (.failed (.outOfRange (String.ofList (Text.trim text.toList)) type.target)) ↔
    ∃ negative decimal, Literal.Signed (Text.trim text.toList) negative (.decimal decimal) ∧
      decimal.toRat ≠ 0 ∧ (decimal.toRat ≤ type.tiny ∨ type.huge ≤ decimal.toRat)
  unreadable : (∃ reason, coerce type.tag (.text text) =
      .error (.failed (.unreadable text type.target reason))) ↔
    ∀ negative numeral, ¬Literal.Signed (Text.trim text.toList) negative numeral
  rounded : ∀ negative decimal (number : Binary type.format),
    Literal.Signed (Text.trim text.toList) negative (.decimal decimal) →
      Literal.readRounded? (Text.trim text.toList) = some number →
        (number.isZero = true ↔ decimal.toRat ≤ type.tiny) ∧
          (number.isInfinite = true ↔ type.huge ≤ decimal.toRat)

/-- A property of the value that a text is coerced to is one of the number that is read. -/
theorem exists_coerce_eq_ok_iff (type : FloatType) (text : String) {holds : Value → Prop} :
    (∃ value, coerce type.tag (.text text) = .ok value ∧ holds value) ↔
      ∃ number, Literal.readBinary (Text.trim text.toList) = .ok number ∧
        holds (type.value number) := by
  simp only [coerce_text, map_eq_ok_iff, readAs_eq_ok_iff]
  constructor
  · rintro ⟨value, ⟨number, reads, rfl⟩, holds⟩
    exact ⟨number, reads, holds⟩
  · rintro ⟨number, reads, holds⟩
    exact ⟨_, ⟨number, reads, rfl⟩, holds⟩

/-- Coercions of texts to floating-point numbers guard them against loss. -/
theorem guards (type : FloatType) (text : String) : type.Guards text where
  zero := by
    rw [exists_coerce_eq_ok_iff]
    simp only [isZero_value]
    exact Literal.exists_readBinary_isZero_iff type.moderate type.limited
  infinite := by
    rw [exists_coerce_eq_ok_iff]
    simp only [isInfinite_value]
    exact Literal.exists_readBinary_isInfinite_iff
  outOfRange := by
    rw [coerce_text, map_eq_error_iff, readAs_eq_outOfRange_iff, ← tiny_format, ← huge_format]
    exact Literal.readBinary_eq_outOfRange_iff_toRat type.moderate type.limited
  unreadable := by
    simp only [coerce_text, map_eq_error_iff, readAs_eq_unreadable_iff,
      Literal.exists_readBinary_eq_unreadable_iff]
    rw [Option.eq_none_iff_forall_ne_some]
    constructor
    · intro none negative numeral signed
      exact none _ (Literal.readRounded?_eq_some_iff.2 ⟨negative, numeral, signed, rfl⟩)
    · intro none number rounded
      obtain ⟨negative, numeral, signed, -⟩ := Literal.readRounded?_eq_some_iff.1 rounded
      exact none negative numeral signed
  rounded negative decimal number signed rounds := by
    have same : some number = some (Binary.ofDecimal negative decimal) := by
      rw [← rounds, Literal.readRounded?_eq_some_iff.2 ⟨negative, _, signed, rfl⟩]
      rfl
    cases same
    rw [Binary.isZero_ofDecimal_iff type.moderate type.limited,
      Binary.isInfinite_ofDecimal_iff type.moderate type.limited, tiny_format, huge_format]
    exact ⟨Iff.rfl, Iff.rfl⟩

/-- A decimal too small for single precision, zero with the same exponent, and a word. -/
example :
    coerce .float (.text "1e-50") = .error (.failed (.outOfRange "1e-50" .float)) ∧
      coerce .float (.text "0e-50") = .ok (.float (.finite false ⟨0, by decide⟩)) ∧
        coerce .double (.text " +INF ") = .ok (.double (.infinite false)) :=
  ⟨rfl, rfl, rfl⟩

end FloatType

end Settings
