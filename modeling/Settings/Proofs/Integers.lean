import Settings.Proofs.Agreement
import Settings.Proofs.Numerals

/-!
Texts of integers, and how coercions classify them.

The reader takes digits from left to right and stops at the first that leads out of the
range.  What it ends with is therefore decided by the initial parts of the text: a text that
begins with an integer out of range is out of range, even if it goes on with something that
makes it no integer at all.
-/

namespace Settings

namespace Literal

/-- The integer has a place among those not below `-limit` and below `limit`. -/
def Fits (limit : Nat) (n : Int) : Prop := -(limit : Int) ≤ n ∧ n < limit

/-- The text begins with an integer that does not fit. -/
def Outruns (limit : Nat) (text : List Char) : Prop :=
  ∃ front n, front <+: text ∧ Denotes front n ∧ ¬Fits limit n

/-! ### Runs of digits -/

section

variable {bound value : Nat} {text : List Char}

theorem readMagnitude_eq_ok_iff {n : Nat} (within : value ≤ bound) :
    readMagnitude bound value text = .ok n ↔
      (∀ c ∈ text, c.isDigit = true) ∧ Nat.ofDigitChars 10 text value = n ∧ n ≤ bound := by
  induction text generalizing value with
  | nil =>
      simp only [readMagnitude, Except.ok.injEq, Nat.ofDigitChars_nil]
      constructor
      · rintro rfl
        exact ⟨by simp, rfl, within⟩
      · exact fun read => read.2.1
  | cons c rest ih =>
      have next : 10 * value + (c.toNat - '0'.toNat) = value * 10 + Text.digitValue c := by
        rw [Nat.mul_comm, Text.digitValue]
      rw [readMagnitude, List.forall_mem_cons, Nat.ofDigitChars_cons, next]
      by_cases digit : c.isDigit = true
      · rw [if_pos digit]
        by_cases fits : value * 10 + Text.digitValue c ≤ bound
        · rw [if_pos fits, ih fits]
          simp only [digit, true_and]
        · have larger := Text.le_ofDigitChars rest (value * 10 + Text.digitValue c)
          rw [if_neg fits]
          refine iff_of_false (by simp) ?_
          rintro ⟨-, rfl, below⟩
          omega
      · rw [if_neg digit]
        refine iff_of_false (by simp) ?_
        rintro ⟨⟨first, -⟩, -⟩
        exact digit first

/-- The first digits that lead out of the range decide, whatever stands behind them. -/
theorem readMagnitude_eq_outOfRange_iff (within : value ≤ bound) :
    readMagnitude bound value text = .error .outOfRange ↔
      ∃ front, front <+: text ∧ (∀ c ∈ front, c.isDigit = true) ∧
        bound < Nat.ofDigitChars 10 front value := by
  induction text generalizing value with
  | nil =>
      refine iff_of_false (by simp [readMagnitude]) ?_
      rintro ⟨front, begins, -, beyond⟩
      rw [List.prefix_nil.1 begins, Nat.ofDigitChars_nil] at beyond
      omega
  | cons c rest ih =>
      have next : 10 * value + (c.toNat - '0'.toNat) = value * 10 + Text.digitValue c := by
        rw [Nat.mul_comm, Text.digitValue]
      rw [readMagnitude]
      by_cases digit : c.isDigit = true
      · rw [if_pos digit]
        by_cases fits : value * 10 + Text.digitValue c ≤ bound
        · rw [if_pos fits, ih fits]
          constructor
          · rintro ⟨front, begins, numeric, beyond⟩
            refine ⟨c :: front, List.cons_prefix_cons.2 ⟨rfl, begins⟩, ?_, ?_⟩
            · exact List.forall_mem_cons.2 ⟨digit, numeric⟩
            · rwa [Nat.ofDigitChars_cons, next]
          · rintro ⟨front, begins, numeric, beyond⟩
            rcases List.prefix_cons_iff.1 begins with rfl | ⟨others, rfl, behind⟩
            · rw [Nat.ofDigitChars_nil] at beyond
              omega
            · rw [Nat.ofDigitChars_cons, next] at beyond
              exact ⟨others, behind, (List.forall_mem_cons.1 numeric).2, beyond⟩
        · rw [if_neg fits]
          refine iff_of_true rfl ⟨[c], ⟨rest, rfl⟩, by simpa using digit, ?_⟩
          rw [Nat.ofDigitChars_cons, Nat.ofDigitChars_nil, next]
          omega
      · rw [if_neg digit]
        refine iff_of_false (by simp) ?_
        rintro ⟨front, begins, numeric, beyond⟩
        rcases List.prefix_cons_iff.1 begins with rfl | ⟨front, rfl, -⟩
        · rw [Nat.ofDigitChars_nil] at beyond
          omega
        · exact digit (numeric c (List.mem_cons_self ..))

theorem readDigits_eq_ok_iff {n : Nat} :
    readDigits bound text = .ok n ↔
      IsNumeric text ∧ Text.digitsValue text = n ∧ n ≤ bound := by
  rw [readDigits]
  split
  · next empty =>
      refine iff_of_false (by simp) ?_
      rintro ⟨run, -⟩
      exact run.counted (List.isEmpty_iff.1 empty)
  · next counted =>
      rw [readMagnitude_eq_ok_iff (Nat.zero_le _)]
      constructor
      · rintro ⟨numeric, value, within⟩
        exact ⟨⟨fun empty => counted (List.isEmpty_iff.2 empty), numeric⟩, value, within⟩
      · rintro ⟨run, value, within⟩
        exact ⟨run.numeric, value, within⟩

theorem readDigits_eq_outOfRange_iff :
    readDigits bound text = .error .outOfRange ↔
      ∃ front, front <+: text ∧ IsNumeric front ∧ bound < Text.digitsValue front := by
  rw [readDigits]
  split
  · next empty =>
      refine iff_of_false (by simp) ?_
      rintro ⟨front, begins, run, -⟩
      rw [List.isEmpty_iff.1 empty] at begins
      exact run.counted (List.prefix_nil.1 begins)
  · rw [readMagnitude_eq_outOfRange_iff (Nat.zero_le _)]
    constructor
    · rintro ⟨front, begins, numeric, beyond⟩
      refine ⟨front, begins, ⟨?_, numeric⟩, beyond⟩
      rintro rfl
      rw [Nat.ofDigitChars_nil] at beyond
      omega
    · rintro ⟨front, begins, run, beyond⟩
      exact ⟨front, begins, run.numeric, beyond⟩

end

/-! ### Signs -/

/-- How the text of an integer is read behind a lead, which is a sign or nothing: the digits are
read within a bound, and their number is made into the integer. -/
structure ReadBehind (limit : Nat) (lead digits : List Char) (bound : Nat) (make : Nat → Int) :
    Prop where
  short : lead = [] ∨ ∃ sign, lead = [sign]
  reads : readInteger limit (lead ++ digits) = (readDigits bound digits).map make
  denotes : ∀ front, front <+: digits → ∀ n,
    Denotes (lead ++ front) n ↔ IsNumeric front ∧ make (Text.digitsValue front) = n
  fits : ∀ m, Fits limit (make m) ↔ m ≤ bound

section

variable {limit : Nat} {digits : List Char}

theorem readBehind_minus (positive : 0 < limit) :
    ReadBehind limit ['-'] digits limit fun m => -(m : Int) where
  short := .inr ⟨'-', rfl⟩
  reads := by
    rw [List.singleton_append, readInteger]
    cases readDigits limit digits <;> rfl
  denotes front _ n := denotes_minus_iff
  fits m := by
    unfold Fits
    omega

theorem readBehind_plus (positive : 0 < limit) :
    ReadBehind limit ['+'] digits (limit - 1) fun m => (m : Int) where
  short := .inr ⟨'+', rfl⟩
  reads := by
    rw [List.singleton_append, readInteger]
    cases readDigits (limit - 1) digits <;> rfl
  denotes front _ n := denotes_plus_iff
  fits m := by
    unfold Fits
    omega

theorem readBehind_unsigned (positive : 0 < limit) {c : Char} (noMinus : c ≠ '-')
    (noPlus : c ≠ '+') : ReadBehind limit [] (c :: digits) (limit - 1) fun m => (m : Int) where
  short := .inl rfl
  reads := by
    rw [List.nil_append]
    unfold readInteger
    split
    · next empty => cases empty
    · next minus => exact absurd (List.cons.inj minus).1 noMinus
    · next plus => exact absurd (List.cons.inj plus).1 noPlus
    · cases readDigits (limit - 1) (c :: digits) <;> rfl
  denotes front begins n := by
    rw [List.nil_append]
    rcases List.prefix_cons_iff.1 begins with rfl | ⟨others, rfl, -⟩
    · exact iff_of_false not_denotes_nil fun run => run.1.counted rfl
    · exact denotes_unsigned_iff noMinus noPlus
  fits m := by
    unfold Fits
    omega

/-- Every text that is not empty is read behind a lead. -/
theorem exists_readBehind (positive : 0 < limit) {text : List Char} (counted : text ≠ []) :
    ∃ lead digits bound make, lead ++ digits = text ∧ ReadBehind limit lead digits bound make := by
  cases text with
  | nil => exact absurd rfl counted
  | cons c rest =>
      by_cases minus : c = '-'
      · subst minus
        exact ⟨['-'], rest, _, _, rfl, readBehind_minus positive⟩
      by_cases plus : c = '+'
      · subst plus
        exact ⟨['+'], rest, _, _, rfl, readBehind_plus positive⟩
      exact ⟨[], c :: rest, _, _, rfl, readBehind_unsigned positive minus plus⟩

/-- No integer is a lead alone, so an integer in front of the text reaches into the digits. -/
theorem ReadBehind.outruns_iff {lead : List Char} {bound : Nat} {make : Nat → Int}
    (behind : ReadBehind limit lead digits bound make) :
    Outruns limit (lead ++ digits) ↔
      ∃ front, front <+: digits ∧ IsNumeric front ∧ bound < Text.digitsValue front := by
  have inside : Outruns limit (lead ++ digits) ↔
      ∃ front n, front <+: digits ∧ Denotes (lead ++ front) n ∧ ¬Fits limit n := by
    constructor
    · rintro ⟨front, n, begins, denotes, beyond⟩
      rcases behind.short with rfl | ⟨sign, rfl⟩
      · exact ⟨front, n, begins, denotes, beyond⟩
      · rcases List.prefix_cons_iff.1 begins with rfl | ⟨others, rfl, later⟩
        · exact absurd denotes not_denotes_nil
        · exact ⟨others, n, later, denotes, beyond⟩
    · rintro ⟨front, n, begins, denotes, beyond⟩
      exact ⟨lead ++ front, n, (List.prefix_append_right_inj lead).2 begins, denotes, beyond⟩
  rw [inside]
  constructor
  · rintro ⟨front, n, begins, denotes, beyond⟩
    obtain ⟨run, rfl⟩ := (behind.denotes front begins n).1 denotes
    exact ⟨front, begins, run, Nat.lt_of_not_le fun within => beyond ((behind.fits _).2 within)⟩
  · rintro ⟨front, begins, run, beyond⟩
    refine ⟨front, _, begins, (behind.denotes front begins _).2 ⟨run, rfl⟩, fun fits => ?_⟩
    exact Nat.not_le.2 beyond ((behind.fits _).1 fits)

end

/-! ### Integers -/

section

variable {limit : Nat} {text : List Char} {n : Int}

/-- The reader accepts the integers that fit, each with its number. -/
theorem readInteger_eq_ok_iff (positive : 0 < limit) :
    readInteger limit text = .ok n ↔ Denotes text n ∧ Fits limit n := by
  by_cases empty : text = []
  · subst empty
    exact iff_of_false (by rintro ⟨⟩) fun read => not_denotes_nil read.1
  obtain ⟨lead, digits, bound, make, rfl, behind⟩ := exists_readBehind positive empty
  have denotes := behind.denotes digits (List.prefix_refl _) n
  rw [behind.reads, map_eq_ok_iff, denotes]
  constructor
  · rintro ⟨m, reads, rfl⟩
    obtain ⟨run, rfl, within⟩ := readDigits_eq_ok_iff.1 reads
    exact ⟨⟨run, rfl⟩, (behind.fits _).2 within⟩
  · rintro ⟨⟨run, rfl⟩, fits⟩
    exact ⟨_, readDigits_eq_ok_iff.2 ⟨run, rfl, (behind.fits _).1 fits⟩, rfl⟩

/-- The reader calls out of range what begins with an integer that does not fit. -/
theorem readInteger_eq_outOfRange_iff (positive : 0 < limit) :
    readInteger limit text = .error .outOfRange ↔ Outruns limit text := by
  by_cases empty : text = []
  · subst empty
    refine iff_of_false (by rintro ⟨⟩) ?_
    rintro ⟨front, n, begins, denotes, -⟩
    rw [List.prefix_nil.1 begins] at denotes
    exact not_denotes_nil denotes
  obtain ⟨lead, digits, bound, make, rfl, behind⟩ := exists_readBehind positive empty
  rw [behind.reads, map_eq_error_iff, readDigits_eq_outOfRange_iff, behind.outruns_iff]

theorem Denotes.outruns (denotes : Denotes text n) (beyond : ¬Fits limit n) : Outruns limit text :=
  ⟨text, n, List.prefix_refl _, denotes, beyond⟩

/-- An integer that fits has no initial part that does not. -/
theorem Denotes.not_outruns (positive : 0 < limit) (denotes : Denotes text n)
    (fits : Fits limit n) : ¬Outruns limit text := by
  have reads := (readInteger_eq_ok_iff positive).2 ⟨denotes, fits⟩
  rw [← readInteger_eq_outOfRange_iff positive, reads]
  rintro ⟨⟩

/-- All other texts are unreadable. -/
theorem exists_readInteger_eq_unreadable_iff (positive : 0 < limit) :
    (∃ reason, readInteger limit text = .error (.unreadable reason)) ↔
      (∀ n, ¬Denotes text n) ∧ ¬Outruns limit text := by
  constructor
  · rintro ⟨reason, fails⟩
    have inRange : ¬Outruns limit text := by
      rw [← readInteger_eq_outOfRange_iff positive, fails]
      rintro ⟨⟩
    refine ⟨fun n denotes => inRange (denotes.outruns fun fits => ?_), inRange⟩
    have reads := (readInteger_eq_ok_iff positive).2 ⟨denotes, fits⟩
    rw [reads] at fails
    cases fails
  · rintro ⟨noInteger, inRange⟩
    have plain := failsWithin_readInteger limit text
    cases result : readInteger limit text with
    | ok n => exact absurd ((readInteger_eq_ok_iff positive).1 result).1 (noInteger n)
    | error failure =>
        rw [result] at plain
        cases failure with
        | unreadable reason => exact ⟨reason, rfl⟩
        | outOfRange => exact absurd ((readInteger_eq_outOfRange_iff positive).1 result) inRange
        | aborted cause => cases plain

/-- The text is no integer, and yet it begins with one that does not fit. -/
def Misleads (limit : Nat) (text : List Char) : Prop :=
  (∀ n, ¬Denotes text n) ∧ Outruns limit text

end

end Literal

/-! ### Coercions to integers -/

/-- The types of integers. -/
inductive IntegerType where
  | int
  | long

namespace IntegerType

/-- The type as a type of values. -/
def tag : IntegerType → Tag
  | .int => .int
  | .long => .long

/-- The integers of the type are not below `-limit` and below `limit`. -/
def limit : IntegerType → Nat
  | .int => 0x80000000
  | .long => signedLimit

/-- The value of an integer that fits. -/
def value : IntegerType → Int → Value
  | .int, n => .int (Int32.ofInt n)
  | .long, n => .long (Int64.ofInt n)

/-- What literals of the type are read as. -/
def target : IntegerType → Target
  | .int => .int
  | .long => .long

theorem limit_pos (type : IntegerType) : 0 < type.limit := by
  cases type <;> decide

/-- Coercing a text is reading an integer without the white space at the ends. -/
theorem coerce_text (type : IntegerType) (text : String) :
    coerce type.tag (.text text) =
      (readAs type.target (Literal.readInteger type.limit) text).map type.value := by
  cases type with
  | int =>
      change (readAs .int Literal.readInt text).map Value.int =
        (readAs .int (Literal.readInteger 0x80000000) text).map int.value
      have reads : readAs .int Literal.readInt text =
          (readAs .int (Literal.readInteger 0x80000000) text).map Int32.ofInt := readAs_map ..
      rw [reads]
      cases readAs .int (Literal.readInteger 0x80000000) text <;> rfl
  | long =>
      change (readAs .long Literal.readLong text).map Value.long =
        (readAs .long (Literal.readInteger signedLimit) text).map long.value
      have reads : readAs .long Literal.readLong text =
          (readAs .long (Literal.readInteger signedLimit) text).map Int64.ofInt := readAs_map ..
      rw [reads]
      cases readAs .long (Literal.readInteger signedLimit) text <;> rfl

variable (type : IntegerType) (text : String)

/-- A text is coerced to the integer that it denotes, if that fits. -/
theorem coerce_eq_ok_iff {value : Value} :
    coerce type.tag (.text text) = .ok value ↔
      ∃ n, Literal.Denotes (Text.trim text.toList) n ∧ Literal.Fits type.limit n ∧
        type.value n = value := by
  rw [coerce_text, map_eq_ok_iff]
  simp only [readAs_eq_ok_iff, Literal.readInteger_eq_ok_iff type.limit_pos, and_assoc]

/-- By kind, the coercion ends as the reader does. -/
theorem byKind_coerce :
    Outcome.byKind (coerce type.tag (.text text)) =
      ((Literal.readInteger type.limit (Text.trim text.toList)).mapError
        ReadFailure.byKind).map type.value := by
  rw [coerce_text, Outcome.byKind_map, byKind_readAs]

/-- A text that begins with an integer out of range is out of range. -/
theorem byKind_coerce_eq_outOfRange_iff :
    Outcome.byKind (coerce type.tag (.text text)) = .error (.failed .outOfRange) ↔
      Literal.Outruns type.limit (Text.trim text.toList) := by
  rw [byKind_coerce, map_eq_error_iff, ← Literal.readInteger_eq_outOfRange_iff type.limit_pos]
  cases Literal.readInteger type.limit (Text.trim text.toList) with
  | ok n => exact iff_of_false (by rintro ⟨⟩) (by rintro ⟨⟩)
  | error failure =>
      cases failure with
      | outOfRange => exact iff_of_true rfl rfl
      | _ => exact iff_of_false (by rintro ⟨⟩) (by rintro ⟨⟩)

/-- A text that is no integer and does not begin with one out of range is unreadable. -/
theorem byKind_coerce_eq_unreadable_iff :
    Outcome.byKind (coerce type.tag (.text text)) = .error (.failed .unreadable) ↔
      (∀ n, ¬Literal.Denotes (Text.trim text.toList) n) ∧
        ¬Literal.Outruns type.limit (Text.trim text.toList) := by
  rw [byKind_coerce, map_eq_error_iff,
    ← Literal.exists_readInteger_eq_unreadable_iff type.limit_pos]
  cases Literal.readInteger type.limit (Text.trim text.toList) with
  | ok n => exact iff_of_false (by rintro ⟨⟩) (by rintro ⟨reason, ⟨⟩⟩)
  | error failure =>
      cases failure with
      | unreadable reason => exact iff_of_true rfl ⟨reason, rfl⟩
      | _ => exact iff_of_false (by rintro ⟨⟩) (by rintro ⟨reason, ⟨⟩⟩)

/-- The text is coerced as it denotes an integer or does not: to the integer if that fits, to an
error about the range if it does not, and to an error about the grammar if there is none. -/
structure Classified (outcome : Outcome ConversionError Value) : Prop where
  accepted : ∀ value, outcome = .ok value ↔
    ∃ n, Literal.Denotes (Text.trim text.toList) n ∧ Literal.Fits type.limit n ∧
      type.value n = value
  outOfRange : Outcome.byKind outcome = .error (.failed .outOfRange) ↔
    ∃ n, Literal.Denotes (Text.trim text.toList) n ∧ ¬Literal.Fits type.limit n
  unreadable : Outcome.byKind outcome = .error (.failed .unreadable) ↔
    ∀ n, ¬Literal.Denotes (Text.trim text.toList) n

/-- Texts are coerced to integers as they denote them, but for those that begin with an integer
out of range and are none themselves.  These are not called unreadable but out of range. -/
theorem classified_coerce_iff :
    (type.Classified text (coerce type.tag (.text text)) ↔
      ¬Literal.Misleads type.limit (Text.trim text.toList)) ∧
    (Literal.Misleads type.limit (Text.trim text.toList) →
      Outcome.byKind (coerce type.tag (.text text)) = .error (.failed .outOfRange)) := by
  refine ⟨⟨?_, ?_⟩, fun misleads => (type.byKind_coerce_eq_outOfRange_iff text).2 misleads.2⟩
  · rintro classified ⟨noInteger, outruns⟩
    have refused := classified.unreadable.2 noInteger
    exact ((type.byKind_coerce_eq_unreadable_iff text).1 refused).2 outruns
  · intro straight
    refine ⟨fun value => type.coerce_eq_ok_iff text, ?_, ?_⟩
    · rw [byKind_coerce_eq_outOfRange_iff]
      constructor
      · intro outruns
        by_contra none
        refine straight ⟨fun n denotes => none ⟨n, denotes, fun fits => ?_⟩, outruns⟩
        exact denotes.not_outruns type.limit_pos fits outruns
      · rintro ⟨n, denotes, beyond⟩
        exact denotes.outruns beyond
    · rw [byKind_coerce_eq_unreadable_iff]
      constructor
      · exact And.left
      · exact fun noInteger => ⟨noInteger, fun outruns => straight ⟨noInteger, outruns⟩⟩

/-- Digits that lead out of the range, and a letter behind them: the text is no integer, and the
letter is never looked at. -/
theorem not_classified_coerce :
    coerce .int (.text "5000000000x") = .error (.failed (.outOfRange "5000000000x" .int)) ∧
      ¬int.Classified "5000000000x" (coerce .int (.text "5000000000x")) := by
  have fails : coerce .int (.text "5000000000x") =
      .error (.failed (.outOfRange "5000000000x" .int)) := rfl
  refine ⟨fails, fun classified => ?_⟩
  have trimmed : Text.trim "5000000000x".toList = "5000000000x".toList := by decide
  have noInteger : ∀ n, ¬Literal.Denotes "5000000000x".toList n := by
    intro n denotes
    obtain ⟨run, -⟩ := (Literal.denotes_unsigned_iff (by decide) (by decide)).1 denotes
    cases run.numeric 'x' (by decide)
  obtain ⟨n, denotes, -⟩ := classified.outOfRange.1 (by rw [fails]; rfl)
  rw [trimmed] at denotes
  exact noInteger n denotes

end IntegerType

end Settings
