import Mathlib.Data.List.Induction
import Settings.Proofs.Trimming
import Settings.Text.Digits
import Settings.Word

/-!
Decimal digits between other text.

A printed number consists of digits, so it is not blank, ends where its digits end, and
its value can only grow as more digits are read.
-/

namespace Settings.Text

theorem isDigit_of_mem_ofNat {n : Nat} {c : Char} (member : c ∈ ofNat n) : c.isDigit = true :=
  Nat.isDigit_of_mem_toDigits (by decide) (by decide) member

theorem ofNat_ne_nil (n : Nat) : ofNat n ≠ [] := Nat.toDigits_ne_nil

theorem isSpace_of_isDigit {c : Char} (digit : c.isDigit = true) : isSpace c = false := by
  have bounds := Char.isDigit_iff_toNat.1 digit
  have low : 48 ≤ c.toNat := bounds.1
  have high : c.toNat ≤ 57 := bounds.2
  simp only [isSpace, Bool.or_eq_false_iff, Bool.and_eq_false_iff, decide_eq_false_iff_not,
    beq_eq_false_iff_ne]
  omega

theorem toLower_of_isDigit {c : Char} (digit : c.isDigit = true) : c.toLower = c := by
  have bounds := Char.isDigit_iff_toNat.1 digit
  have high : c.val.toNat ≤ 57 := bounds.2
  delta Char.toLower
  rw [dif_neg]
  intro upper
  have low : 65 ≤ c.val.toNat := UInt32.le_iff_toNat_le.1 upper.1
  omega

theorem isSpace_of_mem_ofNat {n : Nat} {c : Char} (member : c ∈ ofNat n) :
    isSpace c = false :=
  isSpace_of_isDigit (isDigit_of_mem_ofNat member)

/-- The digits of a number in front of another text. -/
theorem takeWhile_isDigit_append {digits rest : List Char}
    (numeric : ∀ c ∈ digits, c.isDigit = true)
    (ends : ∀ c, rest.head? = some c → c.isDigit = false) :
    (digits ++ rest).takeWhile Char.isDigit = digits := by
  rw [List.takeWhile_append_of_pos numeric]
  cases rest with
  | nil => simp
  | cons c rest => simp [ends c rfl]

/-- The text behind the digits of a number. -/
theorem dropWhile_isDigit_append {digits rest : List Char}
    (numeric : ∀ c ∈ digits, c.isDigit = true)
    (ends : ∀ c, rest.head? = some c → c.isDigit = false) :
    (digits ++ rest).dropWhile Char.isDigit = rest := by
  have whole := List.takeWhile_append_dropWhile (p := Char.isDigit) (l := digits ++ rest)
  rw [takeWhile_isDigit_append numeric ends] at whole
  exact List.append_cancel_left whole

/-- The digits in front of a text are digits, and what stands behind them does not start
with one. -/
theorem isDigit_of_mem_takeWhile {text : List Char} {c : Char}
    (member : c ∈ text.takeWhile Char.isDigit) : c.isDigit = true :=
  List.all_eq_true.1 List.all_takeWhile c member

theorem isDigit_of_head?_dropWhile {text : List Char} {c : Char}
    (first : (text.dropWhile Char.isDigit).head? = some c) : c.isDigit = false := by
  have stops := List.head?_dropWhile_not Char.isDigit text
  rw [first] at stops
  simpa using stops

/-- More digits never make a number smaller. -/
theorem le_ofDigitChars (digits : List Char) (value : Nat) :
    value ≤ Nat.ofDigitChars 10 digits value := by
  induction digits generalizing value with
  | nil => simp
  | cons c digits ih =>
      rw [Nat.ofDigitChars_cons]
      apply Nat.le_trans _ (ih _)
      omega

/-- One more digit behind a number. -/
theorem digitsValue_append_singleton (digits : List Char) (c : Char) :
    digitsValue (digits ++ [c]) = digitsValue digits * 10 + digitValue c := by
  rw [digitsValue, Nat.ofDigitChars_append, Nat.ofDigitChars_cons, Nat.ofDigitChars_nil,
    Nat.mul_comm]
  rfl

theorem digitValue_le {c : Char} (digit : c.isDigit = true) : digitValue c ≤ 9 := by
  have high : c.toNat ≤ '9'.toNat := (Char.isDigit_iff_toNat.1 digit).2
  exact Nat.sub_le_sub_right high '0'.toNat

/-- A number is below the power of ten of as many digits. -/
theorem digitsValue_lt_pow {digits : List Char} (numeric : ∀ c ∈ digits, c.isDigit = true) :
    digitsValue digits < 10 ^ digits.length := by
  induction digits using List.reverseRecOn with
  | nil => decide
  | append_singleton front last ih =>
      have before := ih fun c member => numeric c (List.mem_append_left _ member)
      have small := digitValue_le
        (numeric last (List.mem_append_right _ (List.mem_singleton_self last)))
      rw [digitsValue_append_singleton, List.length_append, List.length_singleton, Nat.pow_succ]
      omega

end Settings.Text
