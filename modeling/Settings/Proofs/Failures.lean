import Settings.Literal.Duration
import Settings.Literal.Integer
import Settings.Literal.Number
import Settings.Text.Case

/-!
The reasons that the readers of literals give.

A reason is part of an error that masking keeps, so what it can quote of the text that
was read matters.  Nearly every reason is a fixed wording with a number in it at most.
The reader of durations quotes the letters of a unit, and only letters get there: this is
an invariant of its machine, which a step preserves and a run therefore keeps.
-/

namespace Settings

/-- The computation gives a good result or fails with an allowed error. -/
def Ends {ε α : Type} (good : α → Prop) (allowed : ε → Prop) : Except ε α → Prop
  | .ok value => good value
  | .error error => allowed error

/-- If the computation fails, then with an allowed error. -/
abbrev FailsWithin {ε α : Type} (allowed : ε → Prop) (result : Except ε α) : Prop :=
  Ends (fun _ => True) allowed result

namespace Ends

variable {ε α β : Type} {good : α → Prop} {allowed : ε → Prop}

theorem ok {value : α} (holds : good value) : Ends good allowed (.ok value : Except ε α) :=
  holds

theorem pure {value : α} (holds : good value) :
    Ends good allowed (Pure.pure value : Except ε α) :=
  holds

theorem error {error : ε} (holds : allowed error) :
    Ends good allowed (.error error : Except ε α) :=
  holds

theorem mono {wider : ε → Prop} {result : Except ε α} (ends : Ends good allowed result)
    (widens : ∀ error, allowed error → wider error) : Ends good wider result := by
  cases result with
  | ok value => exact ends
  | error error => exact widens error ends

/-- A sequence: the second part starts from what the first one establishes. -/
theorem bind {reached : β → Prop} {first : Except ε α} {next : α → Except ε β}
    (left : Ends good allowed first)
    (right : ∀ value, good value → Ends reached allowed (next value)) :
    Ends reached allowed (first >>= next) := by
  cases first with
  | ok value => exact right value left
  | error error => exact left

end Ends

namespace FailsWithin

variable {ε α β : Type} {allowed : ε → Prop}

theorem map {result : Except ε α} (make : α → β) (within : FailsWithin allowed result) :
    FailsWithin allowed (result.map make) := by
  cases result with
  | ok value => exact Ends.ok trivial
  | error error => exact within

/-- A traversal fails with an error of one of the items. -/
theorem mapM {items : List α} {read : α → Except ε β}
    (each : ∀ item ∈ items, FailsWithin allowed (read item)) :
    FailsWithin allowed (items.mapM read) := by
  induction items with
  | nil => exact Ends.ok trivial
  | cons item rest ih =>
      have first := each item (List.mem_cons_self ..)
      have others := ih fun item listed => each item (List.mem_cons_of_mem _ listed)
      rw [List.mapM_cons]
      apply first.bind
      intro value _
      apply others.bind
      intro values _
      exact Ends.pure trivial

end FailsWithin

/-- The wording of the reason is fixed but for numbers and letters of units. -/
def Reason.Fixed : Reason → Prop
  | .notMember _ | .unknownMemoryUnit _ => False
  | .duration (.unknownUnit letters) => ∀ c ∈ letters, Literal.isUnitLetter c = true
  | _ => True

/-- Where the reading ends with a reason, the reason is fixed. -/
def ReadFailure.Fixed : ReadFailure → Prop
  | .unreadable reason => reason.Fixed
  | _ => True

/-- The reading ends with a fixed reason or out of range, and is not abandoned. -/
def ReadFailure.Plain : ReadFailure → Prop
  | .unreadable reason => reason.Fixed
  | .outOfRange => True
  | .aborted _ => False

namespace Literal

/-! ### Numbers and truth values -/

theorem failsWithin_readMagnitude (bound value : Nat) (text : List Char) :
    FailsWithin ReadFailure.Plain (readMagnitude bound value text) := by
  induction text generalizing value with
  | nil => exact Ends.ok trivial
  | cons c rest ih =>
      rw [readMagnitude]
      split
      · dsimp only
        split
        · exact ih _
        · exact Ends.error trivial
      · exact Ends.error trivial

theorem failsWithin_readDigits (bound : Nat) (text : List Char) :
    FailsWithin ReadFailure.Plain (readDigits bound text) := by
  rw [readDigits]
  split
  · exact Ends.error trivial
  · exact failsWithin_readMagnitude bound 0 text

theorem failsWithin_readInteger (limit : Nat) (text : List Char) :
    FailsWithin ReadFailure.Plain (readInteger limit text) := by
  unfold readInteger
  split
  · exact Ends.error trivial
  all_goals
    apply (failsWithin_readDigits _ _).bind
    intro value _
    exact Ends.pure trivial

theorem failsWithin_readInt (text : List Char) :
    FailsWithin ReadFailure.Plain (readInt text) :=
  (failsWithin_readInteger _ text).map _

theorem failsWithin_readLong (text : List Char) :
    FailsWithin ReadFailure.Plain (readLong text) :=
  (failsWithin_readInteger _ text).map _

theorem failsWithin_readBinary {format : Format} (text : List Char) :
    FailsWithin ReadFailure.Plain (readBinary text : Except ReadFailure (Binary format)) := by
  unfold readBinary
  split
  · exact Ends.error trivial
  split
  · exact Ends.error trivial
  split
  · exact Ends.error trivial
  split
  · exact Ends.error trivial
  · exact Ends.ok trivial

/-! ### Durations -/

theorem failsWithin_fault {α : Type} {good : α → Prop} {reported : DurationFault}
    (fixed : (Reason.duration reported).Fixed) :
    Ends good ReadFailure.Fixed (fault reported : Except ReadFailure α) :=
  Ends.error fixed

theorem failsWithin_fit64 (number : Nat) : FailsWithin ReadFailure.Fixed (fit64 number) := by
  rw [fit64]
  split
  · exact Ends.ok trivial
  · exact failsWithin_fault trivial

theorem failsWithin_add (sum : Sum) (seconds nanos : Nat) :
    FailsWithin ReadFailure.Fixed (sum.add seconds nanos) := by
  have total : ∀ carried rest : Nat, FailsWithin ReadFailure.Fixed (do
      let total ← fit64 (sum.seconds + carried)
      if rest < nanosPerSecond then return (⟨total, rest⟩ : Sum)
      else if total + 1 < wordLimit then return ⟨total + 1, rest - nanosPerSecond⟩
      else throw (.aborted .durationCarry)) := by
    intro carried rest
    apply (failsWithin_fit64 _).bind
    intro total _
    split
    · exact Ends.pure trivial
    split
    · exact Ends.pure trivial
    · exact Ends.error trivial
  rw [Sum.add]
  apply (failsWithin_fit64 _).bind
  intro nanos _
  dsimp only
  split
  · apply (failsWithin_fit64 _).bind
    intro carried _
    exact total carried _
  · exact total seconds _

theorem failsWithin_addSteps (sum : Sum) (step count : Nat) :
    FailsWithin ReadFailure.Fixed (sum.addSteps step count) := by
  rw [Sum.addSteps]
  split
  · exact failsWithin_add sum 0 count
  · exact failsWithin_add sum count 0

/-- Adding a component quotes nothing but the letters of its unit. -/
theorem failsWithin_addComponent (sum : Sum) (count : Nat) (fraction : Option Fraction)
    {letters : List Char} (lettered : ∀ c ∈ letters, isUnitLetter c = true) :
    FailsWithin ReadFailure.Fixed (sum.addComponent count fraction letters) := by
  rw [Sum.addComponent]
  split
  · apply failsWithin_fault
    split
    · trivial
    · exact lettered
  · next unit _ =>
      apply (failsWithin_fit64 _).bind
      intro steps _
      apply (failsWithin_addSteps sum _ _).bind
      intro sum _
      cases fraction with
      | none => exact Ends.pure trivial
      | some fraction =>
          dsimp only
          split
          · exact failsWithin_fault trivial
          · next step _ =>
              apply (failsWithin_fit64 _).bind
              intro scaled _
              split
              · exact failsWithin_addSteps sum step _
              · exact failsWithin_fault trivial

theorem failsWithin_push (fraction : Fraction) (digit : Nat) :
    FailsWithin ReadFailure.Fixed (fraction.push digit) := by
  rw [Fraction.push]
  apply (failsWithin_fit64 _).bind
  intro denominator _
  apply (failsWithin_fit64 _).bind
  intro numerator _
  exact Ends.pure trivial

/-- The invariant of the machine: what it keeps of a unit are letters of units. -/
def Phase.Lettered : Phase → Prop
  | .unit _ _ letters => ∀ c ∈ letters, isUnitLetter c = true
  | _ => True

/-- A step keeps the invariant, since a character joins a unit only if it is a letter, and
a step that fails quotes nothing but letters. -/
theorem step_lettered (offset : Nat) (c : Char) {phase : Phase} (lettered : phase.Lettered)
    (sum : Sum) :
    Ends (fun state => state.1.Lettered) ReadFailure.Fixed (step offset c (phase, sum)) := by
  cases phase with
  | start mark =>
      rw [step]
      split
      · exact Ends.ok trivial
      split
      · exact Ends.ok trivial
      · exact failsWithin_fault trivial
  | whole count =>
      rw [step]
      split
      · apply (failsWithin_fit64 _).bind
        intro count _
        exact Ends.pure trivial
      split
      · exact Ends.ok trivial
      split
      · next letter =>
          apply Ends.ok
          intro d member
          rwa [List.mem_singleton.1 member]
      split
      · exact Ends.ok trivial
      · exact failsWithin_fault trivial
  | fraction count fraction mark =>
      rw [step]
      split
      · apply (failsWithin_push fraction _).bind
        intro fraction _
        exact Ends.pure trivial
      split
      · exact Ends.ok trivial
      split
      · next letter =>
          apply Ends.ok
          intro d member
          rw [List.mem_singleton.1 member]
          exact (Bool.and_eq_true_iff.1 letter).1
      · exact failsWithin_fault trivial
  | unit count fraction letters =>
      have added := failsWithin_addComponent sum count fraction lettered
      rw [step]
      split
      · apply added.bind
        intro sum _
        exact Ends.pure trivial
      split
      · apply added.bind
        intro sum _
        exact Ends.pure trivial
      split
      · next letter =>
          apply Ends.ok
          intro d member
          rcases List.mem_append.1 member with old | new
          · exact lettered d old
          · rwa [List.mem_singleton.1 new]
      · exact failsWithin_fault trivial

/-- At the end of the text nothing but letters is quoted either. -/
theorem failsWithin_finish {phase : Phase} (lettered : phase.Lettered) (sum : Sum) :
    FailsWithin ReadFailure.Fixed (finish (phase, sum)) := by
  have noLetters : ∀ c ∈ ([] : List Char), isUnitLetter c = true := by simp
  cases phase with
  | start mark => exact Ends.ok trivial
  | whole count => exact failsWithin_addComponent sum count none noLetters
  | fraction count fraction mark =>
      rw [finish]
      split
      · exact failsWithin_fault trivial
      · exact failsWithin_addComponent sum count _ noLetters
  | unit count fraction letters => exact failsWithin_addComponent sum count fraction lettered

/-- A run from a lettered phase quotes nothing but letters. -/
theorem failsWithin_readComponents (offset : Nat) {phase : Phase} (lettered : phase.Lettered)
    (sum : Sum) (text : List Char) :
    FailsWithin ReadFailure.Fixed (readComponents offset (phase, sum) text) := by
  induction text generalizing offset phase sum with
  | nil => exact failsWithin_finish lettered sum
  | cons c rest ih =>
      rw [readComponents]
      apply (step_lettered offset c lettered sum).bind
      rintro ⟨next, total⟩ lettered
      exact ih (offset + c.utf8Size) lettered total

/-- The definition as an equation between functions: the equation at a given sum would make
the kernel compare the count with the bound of durations, which is far too large. -/
theorem Sum.duration_def : Sum.duration = fun sum =>
    match Duration.ofNanos? (sum.seconds * nanosPerSecond + sum.nanos) with
    | some duration => .ok duration
    | none => .error .outOfRange := by
  delta Sum.duration
  exact Eq.refl _

theorem failsWithin_duration (sum : Sum) : FailsWithin ReadFailure.Fixed sum.duration := by
  rw [Sum.duration_def]
  dsimp only
  split
  · exact Ends.ok trivial
  · exact Ends.error trivial

theorem failsWithin_readDuration (text : List Char) :
    FailsWithin ReadFailure.Fixed (readDuration text) := by
  rw [readDuration]
  split
  · exact Ends.error trivial
  split
  · dsimp only
    split
    · split
      · exact Ends.ok trivial
      · exact Ends.error trivial
    · exact Ends.error trivial
  · have lettered : (Phase.start 0).Lettered := trivial
    apply (failsWithin_readComponents 0 lettered ⟨0, 0⟩ _).bind
    intro sum _
    exact failsWithin_duration sum

end Literal

end Settings
