import Settings.Proofs.Durations.Machine

/-!
Components of durations as they are spelled.

The state of the machine behind the first characters of a text tells how they are spelled
(`holds_of_reaches`): components that are read to the sum, and behind them as much of a number,
a fraction and a unit as the phase says.  What is spelled so is read so
(`Sums.reaches_append_component`).
-/

namespace Settings.Literal

/-! ### Numbers and fractions as they are spelled -/

/-- The text consists of digits and white space. -/
def Spaced (text : List Char) : Prop := ∀ c ∈ text, c.isDigit = true ∨ Text.isSpace c = true

/-- The number of the digits in a text. -/
def numberOf (text : List Char) : Nat := Text.digitsValue (text.filter Char.isDigit)

/-- The fraction of the digits in a text, which stands behind a point. -/
def fractionOf (text : List Char) : Fraction :=
  ⟨numberOf text, 10 ^ (text.filter Char.isDigit).length⟩

/-- The text spells a number of 64 bits: it begins with a digit, and white space may stand
between its digits and behind them. -/
structure Counts (text : List Char) (count : Nat) : Prop where
  first : ∃ c rest, text = c :: rest ∧ c.isDigit = true
  spaced : Spaced text
  value : numberOf text = count
  fits : count < wordLimit

/-- The text spells a fraction, of which the denominator fits into 64 bits. -/
structure Refines (text : List Char) (fraction : Fraction) : Prop where
  spaced : Spaced text
  value : fractionOf text = fraction
  fits : fraction.denominator < wordLimit

/-- The text is empty, or a point with digits behind it. -/
inductive Pointed : List Char → Option Fraction → Prop where
  | none : Pointed [] none
  | some {text : List Char} {fraction : Fraction} (refines : Refines text fraction)
      (counted : fraction.denominator ≠ 1) : Pointed ('.' :: text) (some fraction)

section

variable {text : List Char} {c : Char}

theorem spaced_append_singleton_iff :
    Spaced (text ++ [c]) ↔ Spaced text ∧ (c.isDigit = true ∨ Text.isSpace c = true) := by
  constructor
  · intro spaced
    exact ⟨fun d member => spaced d (List.mem_append_left _ member), spaced c (by simp)⟩
  · rintro ⟨spaced, last⟩ d member
    rcases List.mem_append.1 member with earlier | final
    · exact spaced d earlier
    · rwa [List.mem_singleton.1 final]

theorem filter_append_digit (digit : c.isDigit = true) :
    (text ++ [c]).filter Char.isDigit = text.filter Char.isDigit ++ [c] := by
  rw [List.filter_append, List.filter_singleton, digit]
  rfl

theorem filter_append_space (space : Text.isSpace c = true) :
    (text ++ [c]).filter Char.isDigit = text.filter Char.isDigit := by
  have noDigit : c.isDigit = false := by
    apply Bool.eq_false_iff.2
    intro digit
    rw [Text.isSpace_of_isDigit digit] at space
    cases space
  rw [List.filter_append, List.filter_singleton, noDigit]
  exact List.append_nil _

theorem numberOf_append_digit (digit : c.isDigit = true) :
    numberOf (text ++ [c]) = numberOf text * 10 + Text.digitValue c := by
  rw [numberOf, filter_append_digit digit, Text.digitsValue_append_singleton, numberOf]

theorem numberOf_append_space (space : Text.isSpace c = true) :
    numberOf (text ++ [c]) = numberOf text := by
  rw [numberOf, filter_append_space space, numberOf]

theorem fractionOf_append_digit (digit : c.isDigit = true) :
    fractionOf (text ++ [c]) = ⟨(fractionOf text).numerator * 10 + Text.digitValue c,
      (fractionOf text).denominator * 10⟩ := by
  simp only [fractionOf, numberOf_append_digit digit, filter_append_digit digit,
    List.length_append, List.length_singleton, Nat.pow_succ]

theorem fractionOf_append_space (space : Text.isSpace c = true) :
    fractionOf (text ++ [c]) = fractionOf text := by
  rw [fractionOf, numberOf_append_space space, filter_append_space space, fractionOf]

theorem counts_singleton (digit : c.isDigit = true) : Counts [c] (Text.digitValue c) where
  first := ⟨c, [], rfl, digit⟩
  spaced := by
    intro d member
    rw [List.mem_singleton.1 member]
    exact .inl digit
  value := (@numberOf_append_digit [] c digit).trans (Nat.zero_add _)
  fits := Nat.lt_of_le_of_lt (Text.digitValue_le digit) (by decide)

/-- A number goes on with a digit or with white space. -/
theorem counts_append_singleton_iff (nonempty : text ≠ []) {count : Nat} :
    Counts (text ++ [c]) count ↔ count < wordLimit ∧ ∃ before, Counts text before ∧
      ((c.isDigit = true ∧ before * 10 + Text.digitValue c = count) ∨
        (Text.isSpace c = true ∧ before = count)) := by
  constructor
  · rintro ⟨first, spaced, value, fits⟩
    obtain ⟨spaced, last⟩ := spaced_append_singleton_iff.1 spaced
    have begins : ∃ d rest, text = d :: rest ∧ d.isDigit = true := by
      obtain ⟨d, rest, same, digit⟩ := first
      cases text with
      | nil => exact absurd rfl nonempty
      | cons e others => exact ⟨e, others, rfl, by rwa [(List.cons.inj same).1]⟩
    rcases last with digit | space
    · rw [numberOf_append_digit digit] at value
      exact ⟨fits, _, ⟨begins, spaced, rfl, by omega⟩, .inl ⟨digit, value⟩⟩
    · rw [numberOf_append_space space] at value
      exact ⟨fits, count, ⟨begins, spaced, value, fits⟩, .inr ⟨space, rfl⟩⟩
  · rintro ⟨fits, before, ⟨first, spaced, value, -⟩, goesOn⟩
    have begins : ∃ d rest, text ++ [c] = d :: rest ∧ d.isDigit = true := by
      obtain ⟨d, rest, same, digit⟩ := first
      exact ⟨d, rest ++ [c], by rw [same, List.cons_append], digit⟩
    rcases goesOn with ⟨digit, rfl⟩ | ⟨space, rfl⟩
    · refine ⟨begins, spaced_append_singleton_iff.2 ⟨spaced, .inl digit⟩, ?_, fits⟩
      rw [numberOf_append_digit digit, value]
    · refine ⟨begins, spaced_append_singleton_iff.2 ⟨spaced, .inr space⟩, ?_, fits⟩
      rw [numberOf_append_space space, value]

theorem push_eq_ok_iff {fraction finer : Fraction} {digit : Nat} :
    fraction.push digit = .ok finer ↔ fraction.denominator * 10 < wordLimit ∧
      fraction.numerator * 10 + digit < wordLimit ∧
      finer = ⟨fraction.numerator * 10 + digit, fraction.denominator * 10⟩ := by
  rw [Fraction.push]
  constructor
  · intro pushed
    obtain ⟨denominator, fits, pushed⟩ := exists_of_bind_eq_ok pushed
    obtain ⟨numerator, fits', pushed⟩ := exists_of_bind_eq_ok pushed
    obtain ⟨below, rfl⟩ := eq_of_fit64_eq_ok fits
    obtain ⟨below', rfl⟩ := eq_of_fit64_eq_ok fits'
    exact ⟨below, below', (Except.ok.inj pushed).symm⟩
  · rintro ⟨below, below', rfl⟩
    rw [fit64_of_lt below, ok_bind, fit64_of_lt below']
    rfl

theorem refines_nil : Refines [] ⟨0, 1⟩ where
  spaced := by simp [Spaced]
  value := rfl
  fits := by decide

/-- Digits that leave 64 bits do so in the denominator first. -/
theorem numerator_fractionOf_lt (text : List Char) :
    (fractionOf text).numerator < (fractionOf text).denominator := by
  apply Text.digitsValue_lt_pow
  exact fun d member => (List.mem_filter.1 member).2

/-- A fraction goes on with a digit or with white space. -/
theorem refines_append_singleton_iff {fraction : Fraction} :
    Refines (text ++ [c]) fraction ↔ ∃ before, Refines text before ∧
      ((c.isDigit = true ∧ before.push (Text.digitValue c) = .ok fraction) ∨
        (Text.isSpace c = true ∧ before = fraction)) := by
  constructor
  · rintro ⟨spaced, value, fits⟩
    obtain ⟨spaced, last⟩ := spaced_append_singleton_iff.1 spaced
    rcases last with digit | space
    · have below := numerator_fractionOf_lt (text ++ [c])
      rw [value] at below
      rw [fractionOf_append_digit digit] at value
      subst value
      have fits' : (fractionOf text).denominator * 10 < wordLimit := fits
      refine ⟨fractionOf text, ⟨spaced, rfl, by omega⟩, .inl ⟨digit, push_eq_ok_iff.2 ?_⟩⟩
      exact ⟨fits, Nat.lt_trans below fits, rfl⟩
    · rw [fractionOf_append_space space] at value
      exact ⟨fraction, ⟨spaced, value, fits⟩, .inr ⟨space, rfl⟩⟩
  · rintro ⟨before, ⟨spaced, rfl, fits⟩, ⟨digit, pushed⟩ | ⟨space, rfl⟩⟩
    · obtain ⟨fits, -, rfl⟩ := push_eq_ok_iff.1 pushed
      refine ⟨spaced_append_singleton_iff.2 ⟨spaced, .inl digit⟩, ?_, fits⟩
      exact fractionOf_append_digit digit
    · refine ⟨spaced_append_singleton_iff.2 ⟨spaced, .inr space⟩, ?_, fits⟩
      exact fractionOf_append_space space

end

/-! ### What the machine holds -/

/-- A component of a duration as it is spelled: its number, what stands from its point on, and
the letters of its unit. -/
structure Component (number point letters : List Char) (count : Nat)
    (fraction : Option Fraction) : Prop where
  counts : Counts number count
  pointed : Pointed point fraction
  nonempty : letters ≠ []
  lettered : ∀ c ∈ letters, isUnitLetter c = true

/-- What stands in front of the machine in a state: components that are read to its sum, and
behind them as much of another one as its phase says. -/
inductive Holds : List Char → Phase × Sum → Prop where
  | start {front : List Char} {mark : Nat} {sum : Sum} (sums : Sums front sum) :
      Holds front (.start mark, sum)
  | whole {before number : List Char} {count : Nat} {sum : Sum} (sums : Sums before sum)
      (counts : Counts number count) : Holds (before ++ number) (.whole count, sum)
  | fraction {before number text : List Char} {count mark : Nat} {fraction : Fraction} {sum : Sum}
      (sums : Sums before sum) (counts : Counts number count) (refines : Refines text fraction) :
      Holds (before ++ number ++ '.' :: text) (.fraction count fraction mark, sum)
  | unit {before number point letters : List Char} {count : Nat} {fraction : Option Fraction}
      {sum : Sum} (sums : Sums before sum)
      (component : Component number point letters count fraction) :
      Holds (before ++ number ++ point ++ letters) (.unit count fraction letters, sum)

section

variable {before number : List Char} {count : Nat} {sum : Sum}

theorem Counts.ne_nil (counts : Counts number count) : number ≠ [] := by
  obtain ⟨c, rest, rfl, -⟩ := counts.first
  exact List.cons_ne_nil c rest

/-- Soundness: the machine holds what it has read. -/
theorem holds_of_reaches {front : List Char} {state : Phase × Sum}
    (reaches : Reaches front state) : Holds front state := by
  -- By the last character that was read: the sum changes only where that ends a unit.
  induction front using List.reverseRecOn generalizing state with
  | nil =>
      cases reaches
      exact .start rfl
  | append_singleton front c ih =>
      obtain ⟨phase, sum, earlier, steps⟩ := reaches_append_singleton_iff.1 reaches
      have holds := ih earlier
      cases steps with
      | begin digit => exact .whole ((sums_iff_of_reaches earlier).2 rfl) (counts_singleton digit)
      | wait space => exact .start ((sums_iff_of_reaches reaches).2 rfl)
      | count digit fits =>
          cases holds with
          | whole sums counts =>
              rw [List.append_assoc]
              apply Holds.whole sums
              exact (counts_append_singleton_iff counts.ne_nil).2
                ⟨fits, _, counts, .inl ⟨digit, rfl⟩⟩
      | pause space =>
          cases holds with
          | whole sums counts =>
              rw [List.append_assoc]
              apply Holds.whole sums
              exact (counts_append_singleton_iff counts.ne_nil).2
                ⟨counts.fits, _, counts, .inr ⟨space, rfl⟩⟩
      | point point =>
          subst point
          cases holds with
          | whole sums counts => exact .fraction sums counts refines_nil
      | name letter =>
          cases holds with
          | @whole before number _ _ sums counts =>
              rw [← List.append_nil (before ++ number)]
              exact .unit sums ⟨counts, .none, List.cons_ne_nil _ _, by simpa using letter⟩
      | refine digit pushed =>
          cases holds with
          | fraction sums counts refines =>
              rw [List.append_assoc, List.cons_append]
              apply Holds.fraction sums counts
              exact refines_append_singleton_iff.2 ⟨_, refines, .inl ⟨digit, pushed⟩⟩
      | pauseFraction space =>
          cases holds with
          | fraction sums counts refines =>
              rw [List.append_assoc, List.cons_append]
              apply Holds.fraction sums counts
              exact refines_append_singleton_iff.2 ⟨_, refines, .inr ⟨space, rfl⟩⟩
      | nameFraction letter counted =>
          cases holds with
          | fraction sums counts refines =>
              refine .unit sums ⟨counts, .some refines counted, List.cons_ne_nil _ _, ?_⟩
              simpa using letter
      | spell letter =>
          cases holds with
          | unit sums component =>
              rw [List.append_assoc]
              refine .unit sums ⟨component.counts, component.pointed, by simp, ?_⟩
              intro d member
              rcases List.mem_append.1 member with old | new
              · exact component.lettered d old
              · rwa [List.mem_singleton.1 new]
      | addBegin digit added =>
          exact .whole ((sums_iff_of_reaches earlier).2 added) (counts_singleton digit)
      | addWait space added => exact .start ((sums_iff_of_reaches reaches).2 rfl)

theorem addComponent_nil (fraction : Option Fraction) :
    sum.addComponent count fraction [] = fault (.unitNeeded count) :=
  rfl

/-- Behind components, a digit begins another number. -/
theorem Sums.reaches_append_digit (sums : Sums before sum) {c : Char} (digit : c.isDigit = true) :
    Reaches (before ++ [c]) (.whole (Text.digitValue c), sum) := by
  obtain ⟨⟨phase, held⟩, reaches, ends⟩ := exists_reaches_of_sums sums
  refine reaches_append_singleton_iff.2 ⟨phase, held, reaches, ?_⟩
  cases phase with
  | start mark =>
      cases ends
      exact .begin digit
  | whole count =>
      rw [finish, addComponent_nil] at ends
      cases ends
  | fraction count fraction mark =>
      rw [finish, addComponent_nil] at ends
      split at ends
      · cases ends
      · cases ends
  | unit count fraction letters => exact .addBegin digit ends

/-- Behind components, the machine takes a number. -/
theorem Sums.reaches_append_counts (sums : Sums before sum) (counts : Counts number count) :
    Reaches (before ++ number) (.whole count, sum) := by
  induction number using List.reverseRecOn generalizing count with
  | nil => exact absurd rfl counts.ne_nil
  | append_singleton number c ih =>
      cases number with
      | nil =>
          obtain ⟨d, rest, same, digit⟩ := counts.first
          cases same
          have value := counts.value
          rw [numberOf_append_digit digit] at value
          obtain rfl : Text.digitValue c = count := (Nat.zero_add _).symm.trans value
          exact sums.reaches_append_digit digit
      | cons d rest =>
          obtain ⟨fits, earlier, counts, goesOn⟩ :=
            (counts_append_singleton_iff (List.cons_ne_nil d rest)).1 counts
          rw [← List.append_assoc]
          refine reaches_append_singleton_iff.2 ⟨_, _, ih counts, ?_⟩
          rcases goesOn with ⟨digit, rfl⟩ | ⟨space, rfl⟩
          · exact .count digit fits
          · exact .pause space

/-- Behind a number, the machine takes a point and a fraction. -/
theorem Sums.exists_reaches_append_refines (sums : Sums before sum) (counts : Counts number count)
    {text : List Char} {fraction : Fraction} (refines : Refines text fraction) :
    ∃ mark, Reaches (before ++ number ++ '.' :: text) (.fraction count fraction mark, sum) := by
  induction text using List.reverseRecOn generalizing fraction with
  | nil =>
      have reaches := sums.reaches_append_counts counts
      obtain rfl : fractionOf [] = fraction := refines.value
      exact ⟨_, reaches_append_singleton_iff.2 ⟨_, _, reaches, .point rfl⟩⟩
  | append_singleton text c ih =>
      obtain ⟨earlier, refines, goesOn⟩ := refines_append_singleton_iff.1 refines
      obtain ⟨mark, reaches⟩ := ih refines
      rw [← List.cons_append, ← List.append_assoc]
      rcases goesOn with ⟨digit, pushed⟩ | ⟨space, rfl⟩
      · exact ⟨_, reaches_append_singleton_iff.2 ⟨_, _, reaches, .refine digit pushed⟩⟩
      · exact ⟨_, reaches_append_singleton_iff.2 ⟨_, _, reaches, .pauseFraction space⟩⟩

/-- Completeness: behind components, the machine takes the letters of another one, with its
number and its fraction. -/
theorem Sums.reaches_append_component (sums : Sums before sum) {point letters : List Char}
    {fraction : Option Fraction} (component : Component number point letters count fraction) :
    Reaches (before ++ number ++ point ++ letters) (.unit count fraction letters, sum) := by
  obtain ⟨counts, pointed, nonempty, lettered⟩ := component
  induction letters using List.reverseRecOn with
  | nil => exact absurd rfl nonempty
  | append_singleton letters c ih =>
      have letter := lettered c (List.mem_append_right _ (List.mem_singleton_self c))
      cases letters with
      | nil =>
          cases pointed with
          | none =>
              have reaches := sums.reaches_append_counts counts
              rw [List.append_nil]
              exact reaches_append_singleton_iff.2 ⟨_, _, reaches, .name letter⟩
          | some refines counted =>
              obtain ⟨mark, reaches⟩ := sums.exists_reaches_append_refines counts refines
              exact reaches_append_singleton_iff.2 ⟨_, _, reaches, .nameFraction letter counted⟩
      | cons d rest =>
          have reaches := ih (List.cons_ne_nil d rest)
            fun e member => lettered e (List.mem_append_left _ member)
          rw [← List.append_assoc]
          exact reaches_append_singleton_iff.2 ⟨_, _, reaches, .spell letter⟩

/-- Behind components, a component is read to what it adds to their sum. -/
theorem Sums.append_component_iff (sums : Sums before sum) {point letters : List Char}
    {fraction : Option Fraction} (component : Component number point letters count fraction)
    {total : Sum} : Sums (before ++ number ++ point ++ letters) total ↔
      sum.addComponent count fraction letters = .ok total :=
  sums_iff_of_reaches (sums.reaches_append_component component)

end

end Settings.Literal
