import Settings.Literal.Duration
import Settings.Proofs.Digits
import Settings.Proofs.Traversals

/-!
The machine that reads durations, character by character.

`Steps` says once what a step can do.  The state behind the first characters of a text is
reached by one step after the other (`reaches_append_singleton_iff`), and it decides to which
sum they are read if nothing follows them (`sums_iff_of_reaches`).
-/

namespace Settings.Literal

-- The zero of natural numbers is that of the core library.
attribute [local instance (2000)] Zero.ofOfNat0

/-! ### Characters -/

theorem ne_space_of_isUnitLetter {c : Char} (letter : isUnitLetter c = true) :
    c.isDigit = false ∧ Text.isSpace c = false := by
  rcases Bool.or_eq_true_iff.1 letter with ascii | micro
  · have ranges : (65 ≤ c.toNat ∧ c.toNat ≤ 90) ∨ (97 ≤ c.toNat ∧ c.toNat ≤ 122) := by
      delta Char.isAlpha Char.isUpper Char.isLower at ascii
      simpa [UInt32.le_iff_toNat_le] using ascii
    constructor
    · apply Bool.eq_false_iff.2
      intro digit
      have high : c.toNat ≤ 57 := (Char.isDigit_iff_toNat.1 digit).2
      omega
    · simp only [Text.isSpace, Bool.or_eq_false_iff, Bool.and_eq_false_iff,
        decide_eq_false_iff_not, beq_eq_false_iff_ne]
      omega
  · rw [eq_of_beq micro]
    decide

/-! ### Steps -/

/-- What the machine does with a character, at the byte offset of the character. -/
inductive Steps (offset : Nat) (c : Char) (sum : Sum) : Phase → Phase × Sum → Prop where
  | begin {mark : Nat} (digit : c.isDigit = true) :
      Steps offset c sum (.start mark) (.whole (Text.digitValue c), sum)
  | wait {mark : Nat} (space : Text.isSpace c = true) :
      Steps offset c sum (.start mark) (.start mark, sum)
  | count {count : Nat} (digit : c.isDigit = true)
      (fits : count * 10 + Text.digitValue c < wordLimit) :
      Steps offset c sum (.whole count) (.whole (count * 10 + Text.digitValue c), sum)
  | pause {count : Nat} (space : Text.isSpace c = true) :
      Steps offset c sum (.whole count) (.whole count, sum)
  | point {count : Nat} (point : c = '.') :
      Steps offset c sum (.whole count) (.fraction count ⟨0, 1⟩ offset, sum)
  | name {count : Nat} (letter : isUnitLetter c = true) :
      Steps offset c sum (.whole count) (.unit count none [c], sum)
  | refine {count mark : Nat} {fraction finer : Fraction} (digit : c.isDigit = true)
      (pushed : fraction.push (Text.digitValue c) = .ok finer) :
      Steps offset c sum (.fraction count fraction mark)
        (.fraction count finer (offset + c.utf8Size), sum)
  | pauseFraction {count mark : Nat} {fraction : Fraction} (space : Text.isSpace c = true) :
      Steps offset c sum (.fraction count fraction mark)
        (.fraction count fraction (offset + c.utf8Size), sum)
  | nameFraction {count mark : Nat} {fraction : Fraction} (letter : isUnitLetter c = true)
      (counted : fraction.denominator ≠ 1) :
      Steps offset c sum (.fraction count fraction mark) (.unit count (some fraction) [c], sum)
  | spell {count : Nat} {fraction : Option Fraction} {letters : List Char}
      (letter : isUnitLetter c = true) :
      Steps offset c sum (.unit count fraction letters) (.unit count fraction (letters ++ [c]), sum)
  | addBegin {count : Nat} {fraction : Option Fraction} {letters : List Char} {total : Sum}
      (digit : c.isDigit = true) (added : sum.addComponent count fraction letters = .ok total) :
      Steps offset c sum (.unit count fraction letters) (.whole (Text.digitValue c), total)
  | addWait {count : Nat} {fraction : Option Fraction} {letters : List Char} {total : Sum}
      (space : Text.isSpace c = true)
      (added : sum.addComponent count fraction letters = .ok total) :
      Steps offset c sum (.unit count fraction letters) (.start (offset + c.utf8Size), total)

section

variable {offset : Nat} {c : Char} {phase : Phase} {sum : Sum} {next : Phase × Sum}

theorem fit64_of_lt {number : Nat} (fits : number < wordLimit) : fit64 number = .ok number :=
  if_pos fits

theorem fit64_of_le {number : Nat} (exceeds : wordLimit ≤ number) :
    fit64 number = fault .unrepresentable :=
  if_neg (Nat.not_lt.2 exceeds)

theorem eq_of_fit64_eq_ok {number found : Nat} (fits : fit64 number = .ok found) :
    number < wordLimit ∧ number = found := by
  rw [fit64] at fits
  split at fits
  · next below => exact ⟨below, Except.ok.inj fits⟩
  · cases fits

theorem steps_of_step (steps : step offset c (phase, sum) = .ok next) :
    Steps offset c sum phase next := by
  cases phase with
  | start mark =>
      rw [step] at steps
      split at steps
      · next digit =>
          cases steps
          exact .begin digit
      split at steps
      · next space =>
          cases steps
          exact .wait space
      · cases steps
  | whole count =>
      rw [step] at steps
      split at steps
      · next digit =>
          obtain ⟨found, fits, steps⟩ := exists_of_bind_eq_ok steps
          cases steps
          obtain ⟨below, rfl⟩ := eq_of_fit64_eq_ok fits
          exact .count digit below
      split at steps
      · next space =>
          cases steps
          exact .pause space
      split at steps
      · next letter =>
          cases steps
          exact .name letter
      split at steps
      · next point =>
          cases steps
          exact .point point
      · cases steps
  | fraction count fraction mark =>
      rw [step] at steps
      split at steps
      · next digit =>
          obtain ⟨finer, pushed, steps⟩ := exists_of_bind_eq_ok steps
          cases steps
          exact .refine digit pushed
      split at steps
      · next space =>
          cases steps
          exact .pauseFraction space
      split at steps
      · next letter =>
          cases steps
          obtain ⟨letter, counted⟩ := Bool.and_eq_true_iff.1 letter
          exact .nameFraction letter (of_decide_eq_true counted)
      · cases steps
  | unit count fraction letters =>
      rw [step] at steps
      split at steps
      · next digit =>
          obtain ⟨total, added, steps⟩ := exists_of_bind_eq_ok steps
          cases steps
          exact .addBegin digit added
      split at steps
      · next space =>
          obtain ⟨total, added, steps⟩ := exists_of_bind_eq_ok steps
          cases steps
          exact .addWait space added
      split at steps
      · next letter =>
          cases steps
          exact .spell letter
      · cases steps

/-- A digit is no space and no letter, and a space is no letter, so the order in which the
machine asks does not matter. -/
theorem Steps.step_eq_ok (steps : Steps offset c sum phase next) :
    step offset c (phase, sum) = .ok next := by
  have noDigit : Text.isSpace c = true → ¬c.isDigit = true := by
    intro space digit
    rw [Text.isSpace_of_isDigit digit] at space
    cases space
  have noLayout : isUnitLetter c = true → ¬c.isDigit = true ∧ ¬Text.isSpace c = true := by
    intro letter
    obtain ⟨digit, space⟩ := ne_space_of_isUnitLetter letter
    exact ⟨Bool.eq_false_iff.1 digit, Bool.eq_false_iff.1 space⟩
  cases steps with
  | begin digit => rw [step, if_pos digit]
  | wait space => rw [step, if_neg (noDigit space), if_pos space]
  | count digit fits =>
      rw [step, if_pos digit, fit64_of_lt fits]
      rfl
  | pause space => rw [step, if_neg (noDigit space), if_pos space]
  | point point =>
      subst point
      rfl
  | name letter =>
      obtain ⟨digit, space⟩ := noLayout letter
      rw [step, if_neg digit, if_neg space, if_pos letter]
  | refine digit pushed =>
      rw [step, if_pos digit, pushed]
      rfl
  | pauseFraction space => rw [step, if_neg (noDigit space), if_pos space]
  | nameFraction letter counted =>
      obtain ⟨digit, space⟩ := noLayout letter
      rw [step, if_neg digit, if_neg space]
      exact if_pos (Bool.and_eq_true_iff.2 ⟨letter, decide_eq_true counted⟩)
  | spell letter =>
      obtain ⟨digit, space⟩ := noLayout letter
      rw [step, if_neg digit, if_neg space, if_pos letter]
  | addBegin digit added =>
      rw [step, if_pos digit, added]
      rfl
  | addWait space added =>
      rw [step, if_neg (noDigit space), if_pos space, added]
      rfl

theorem step_eq_ok_iff :
    step offset c (phase, sum) = .ok next ↔ Steps offset c sum phase next :=
  ⟨steps_of_step, Steps.step_eq_ok⟩

end

/-! ### Runs -/

/-- The bytes of a text. -/
def width (text : List Char) : Nat := (text.map Char.utf8Size).sum

/-- The state of the machine behind a text that begins at a byte offset. -/
def advance (offset : Nat) (state : Phase × Sum) : List Char → Except ReadFailure (Phase × Sum)
  | [] => .ok state
  | c :: rest => do advance (offset + c.utf8Size) (← step offset c state) rest

/-- The state in which texts are begun. -/
def beginning : Phase × Sum := (.start 0, ⟨0, 0⟩)

/-- The machine is in the state behind the characters in front of the text. -/
def Reaches (front : List Char) (state : Phase × Sum) : Prop :=
  advance 0 beginning front = .ok state

/-- The text consists of components that are read to the sum. -/
def Sums (text : List Char) (sum : Sum) : Prop := readComponents 0 beginning text = .ok sum

theorem advance_append (offset : Nat) (state : Phase × Sum) (front rest : List Char) :
    advance offset state (front ++ rest) =
      (do advance (offset + width front) (← advance offset state front) rest) := by
  induction front generalizing offset state with
  | nil => rfl
  | cons c front ih =>
      have next : offset + width (c :: front) = offset + c.utf8Size + width front := by
        rw [width, List.map_cons, List.sum_cons, ← Nat.add_assoc, width]
      rw [List.cons_append, advance, advance, next]
      cases step offset c state with
      | error failure => rfl
      | ok state => exact ih (offset + c.utf8Size) state

/-- Reading a text is a run of the machine and its end. -/
theorem readComponents_eq_bind (offset : Nat) (state : Phase × Sum) (text : List Char) :
    readComponents offset state text = (advance offset state text >>= finish) := by
  induction text generalizing offset state with
  | nil => rfl
  | cons c rest ih =>
      rw [readComponents, advance]
      cases step offset c state with
      | error failure => rfl
      | ok state => exact ih (offset + c.utf8Size) state

theorem readComponents_append (offset : Nat) (state : Phase × Sum) (front rest : List Char) :
    readComponents offset state (front ++ rest) =
      (do readComponents (offset + width front) (← advance offset state front) rest) := by
  simp only [readComponents_eq_bind, advance_append, bind_assoc]

section

variable {front : List Char} {state next : Phase × Sum} {sum : Sum} {phase : Phase} {c : Char}

theorem reaches_append_singleton_iff :
    Reaches (front ++ [c]) next ↔
      ∃ phase sum, Reaches front (phase, sum) ∧ Steps (width front) c sum phase next := by
  have behind : advance 0 beginning (front ++ [c]) = (do
      let state ← advance 0 beginning front
      step (width front) c state) := by
    rw [advance_append, Nat.zero_add]
    cases advance 0 beginning front with
    | error failure => rfl
    | ok state =>
        rw [ok_bind, ok_bind, advance]
        exact bind_pure _
  rw [Reaches, behind]
  constructor
  · intro steps
    obtain ⟨⟨phase, sum⟩, reaches, steps⟩ := exists_of_bind_eq_ok steps
    exact ⟨phase, sum, reaches, step_eq_ok_iff.1 steps⟩
  · rintro ⟨phase, sum, reaches, steps⟩
    have before : advance 0 beginning front = .ok (phase, sum) := reaches
    rw [before, ok_bind]
    exact steps.step_eq_ok

/-- A text is read on from the state behind its first characters. -/
theorem Reaches.readComponents_append (reaches : Reaches front state) (rest : List Char) :
    readComponents 0 beginning (front ++ rest) = readComponents (width front) state rest := by
  have runs : advance 0 beginning front = .ok state := reaches
  rw [Literal.readComponents_append, runs, ok_bind, Nat.zero_add]

theorem Reaches.readComponents_eq (reaches : Reaches front state) :
    readComponents 0 beginning front = finish state := by
  have runs : advance 0 beginning front = .ok state := reaches
  rw [readComponents_eq_bind, runs, ok_bind]

theorem sums_iff_of_reaches (reaches : Reaches front state) :
    Sums front sum ↔ finish state = .ok sum := by
  rw [Sums, reaches.readComponents_eq]

theorem exists_reaches_of_sums (sums : Sums front sum) :
    ∃ state, Reaches front state ∧ finish state = .ok sum := by
  rw [Sums, readComponents_eq_bind] at sums
  exact exists_of_bind_eq_ok sums

end

end Settings.Literal
