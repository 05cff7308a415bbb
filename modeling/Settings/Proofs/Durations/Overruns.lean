import Settings.Proofs.Agreement
import Settings.Proofs.Durations.Spelling
import Settings.Proofs.MaskedText

/-!
Texts of durations that are neither read nor refused.

Nanoseconds beyond a second are carried into the seconds with a check, but exactly one second
of them is carried without one.  If the seconds are then at the greatest number of 64 bits, the
reading is abandoned.  This happens where a component of the text fills the last second of the
components before it (`FillsLastSecond`), and nowhere else.
-/

namespace Settings.Literal

/-! ### Abandoned readings -/

/-- The reading is abandoned. -/
def Abandoned {α : Type} (result : Except ReadFailure α) : Prop :=
  ∃ cause, result = .error (.aborted cause)

section

variable {α β : Type}

theorem not_abandoned_ok {value : α} : ¬Abandoned (.ok value) := by
  rintro ⟨cause, ⟨⟩⟩

theorem not_abandoned_fault {reported : DurationFault} :
    ¬Abandoned (fault reported : Except ReadFailure α) := by
  rintro ⟨cause, ⟨⟩⟩

theorem not_abandoned_fit64 {number : Nat} : ¬Abandoned (fit64 number) := by
  rw [fit64]
  split
  · exact not_abandoned_ok
  · exact not_abandoned_fault

theorem abandoned_bind_iff {first : Except ReadFailure α} {next : α → Except ReadFailure β} :
    Abandoned (first >>= next) ↔
      Abandoned first ∨ ∃ value, first = .ok value ∧ Abandoned (next value) := by
  cases first with
  | ok value =>
      rw [ok_bind]
      constructor
      · exact fun abandoned => .inr ⟨value, rfl, abandoned⟩
      · rintro (⟨cause, ⟨⟩⟩ | ⟨other, same, abandoned⟩)
        rwa [Except.ok.inj same]
  | error failure =>
      rw [error_bind]
      constructor
      · rintro ⟨cause, ⟨⟩⟩
        exact .inl ⟨cause, rfl⟩
      · rintro (⟨cause, ⟨⟩⟩ | ⟨value, ⟨⟩, -⟩)
        exact ⟨cause, rfl⟩

end

/-! ### The last second -/

/-- The nanoseconds make up a whole second with those of the sum, and one more second does not
fit into 64 bits. -/
def Sum.Fills (sum : Sum) (nanos : Nat) : Prop :=
  sum.nanos + nanos = nanosPerSecond ∧ sum.seconds + 1 = wordLimit

section

variable {sum total : Sum} {seconds nanos : Nat}

theorem add_eq_aborted (second : sum.nanos + nanos = nanosPerSecond)
    (last : sum.seconds + seconds + 1 = wordLimit) :
    sum.add seconds nanos = .error (.aborted .durationCarry) := by
  have nanosFit : sum.nanos + nanos < wordLimit := by
    rw [second]
    decide
  have noCarry : ¬nanosPerSecond < sum.nanos + nanos := by omega
  have secondsFit : sum.seconds + seconds < wordLimit := by omega
  have full : ¬sum.nanos + nanos < nanosPerSecond := by omega
  have noRoom : ¬sum.seconds + seconds + 1 < wordLimit := by omega
  simp only [Sum.add, fit64_of_lt nanosFit, ok_bind, pure_bind, if_neg noCarry,
    fit64_of_lt secondsFit, if_neg full, if_neg noRoom]
  rfl

/-- In all other cases an addition is refused, or it leaves less than a second of nanoseconds. -/
theorem add_cases (room : ¬(sum.nanos + nanos = nanosPerSecond ∧
      sum.seconds + seconds + 1 = wordLimit)) :
    sum.add seconds nanos = fault .unrepresentable ∨
      ∃ total, sum.add seconds nanos = .ok total ∧ total.nanos < nanosPerSecond := by
  have second : 0 < nanosPerSecond := by decide
  rw [Sum.add]
  by_cases nanosFit : sum.nanos + nanos < wordLimit
  · rw [fit64_of_lt nanosFit, ok_bind]
    dsimp only
    by_cases carry : nanosPerSecond < sum.nanos + nanos
    · have rest := Nat.mod_lt (sum.nanos + nanos) second
      simp only [if_pos carry, if_pos rest]
      by_cases carriedFits : seconds + (sum.nanos + nanos) / nanosPerSecond < wordLimit
      · rw [fit64_of_lt carriedFits, ok_bind]
        by_cases secondsFit :
            sum.seconds + (seconds + (sum.nanos + nanos) / nanosPerSecond) < wordLimit
        · rw [fit64_of_lt secondsFit]
          exact .inr ⟨_, rfl, rest⟩
        · rw [fit64_of_le (Nat.le_of_not_lt secondsFit)]
          exact .inl rfl
      · rw [fit64_of_le (Nat.le_of_not_lt carriedFits)]
        exact .inl rfl
    · simp only [if_neg carry, pure_bind]
      by_cases secondsFit : sum.seconds + seconds < wordLimit
      · rw [fit64_of_lt secondsFit, ok_bind]
        by_cases below : sum.nanos + nanos < nanosPerSecond
        · rw [if_pos below]
          exact .inr ⟨_, rfl, below⟩
        -- The nanoseconds are exactly one second, so there must be room for it.
        · have next : sum.seconds + seconds + 1 < wordLimit := by omega
          rw [if_neg below, if_pos next]
          refine .inr ⟨_, rfl, ?_⟩
          show sum.nanos + nanos - nanosPerSecond < nanosPerSecond
          omega
      · rw [fit64_of_le (Nat.le_of_not_lt secondsFit)]
        exact .inl rfl
  · rw [fit64_of_le (Nat.le_of_not_lt nanosFit)]
    exact .inl rfl

theorem abandoned_add_iff : Abandoned (sum.add seconds nanos) ↔
    sum.nanos + nanos = nanosPerSecond ∧ sum.seconds + seconds + 1 = wordLimit := by
  by_cases full : sum.nanos + nanos = nanosPerSecond ∧ sum.seconds + seconds + 1 = wordLimit
  · exact iff_of_true ⟨_, add_eq_aborted full.1 full.2⟩ full
  · refine iff_of_false ?_ full
    rcases add_cases full with refused | ⟨total, added, -⟩
    · rw [refused]
      exact not_abandoned_fault
    · rw [added]
      exact not_abandoned_ok

theorem nanos_lt_of_add (added : sum.add seconds nanos = .ok total) :
    total.nanos < nanosPerSecond := by
  by_cases full : sum.nanos + nanos = nanosPerSecond ∧ sum.seconds + seconds + 1 = wordLimit
  · rw [add_eq_aborted full.1 full.2] at added
    cases added
  · rcases add_cases full with refused | ⟨other, added', small⟩
    · rw [refused] at added
      cases added
    · rw [added'] at added
      cases added
      exact small

/-- Seconds alone never fill the last second, for there is less than a second of nanoseconds. -/
theorem abandoned_addSteps_iff (small : sum.nanos < nanosPerSecond) {step count : Nat} :
    Abandoned (sum.addSteps step count) ↔ step = 1 ∧ sum.Fills count := by
  rw [Sum.addSteps]
  split
  · next fine =>
      rw [abandoned_add_iff, Nat.add_zero]
      exact ⟨fun full => ⟨fine, full⟩, fun full => full.2⟩
  · next coarse =>
      rw [abandoned_add_iff, Nat.add_zero]
      exact iff_of_false (fun full => Nat.ne_of_lt small full.1) fun full => coarse full.1

theorem nanos_lt_of_addSteps {step count : Nat} (added : sum.addSteps step count = .ok total) :
    total.nanos < nanosPerSecond := by
  rw [Sum.addSteps] at added
  split at added
  · exact nanos_lt_of_add added
  · exact nanos_lt_of_add added

end

/-! ### Components -/

/-- The sum with the fraction of a component in the unit added. -/
def Sum.addFraction (sum : Sum) (unit : TimeUnit) (fraction : Fraction) : Except ReadFailure Sum :=
  match unit.fractionStep with
  | none => fault .unrepresentable
  | some step => do
    let scaled ← fit64 (fraction.numerator * (unit.length / step))
    if scaled % fraction.denominator = 0 then sum.addSteps step (scaled / fraction.denominator)
    else fault .unrepresentable

section

variable {sum total : Sum} {unit : TimeUnit} {count : Nat} {letters : List Char}

/-- The fraction of a component is added to the sum with its number. -/
theorem addComponent_some (named : timeUnit? letters = some unit) (fraction : Fraction) :
    sum.addComponent count (some fraction) letters = (do
      let held ← sum.addComponent count none letters
      held.addFraction unit fraction) := by
  simp only [Sum.addComponent, named, bind_assoc, pure_bind]
  rfl

theorem exists_timeUnit?_of_addComponent {fraction : Option Fraction}
    (added : sum.addComponent count fraction letters = .ok total) :
    ∃ unit, timeUnit? letters = some unit := by
  cases named : timeUnit? letters with
  | none =>
      rw [Sum.addComponent, named] at added
      cases added
  | some unit => exact ⟨unit, rfl⟩

theorem nanos_lt_of_addComponent {fraction : Option Fraction}
    (added : sum.addComponent count fraction letters = .ok total) :
    total.nanos < nanosPerSecond := by
  obtain ⟨unit, named⟩ := exists_timeUnit?_of_addComponent added
  have number : ∀ held, sum.addComponent count none letters = .ok held →
      held.nanos < nanosPerSecond := by
    intro held added
    rw [addComponent_of_timeUnit? sum count named] at added
    obtain ⟨steps, -, added⟩ := exists_of_bind_eq_ok added
    exact nanos_lt_of_addSteps added
  cases fraction with
  | none => exact number total added
  | some fraction =>
      rw [addComponent_some named] at added
      obtain ⟨held, -, added⟩ := exists_of_bind_eq_ok added
      rw [Sum.addFraction] at added
      split at added
      · cases added
      · obtain ⟨scaled, -, added⟩ := exists_of_bind_eq_ok added
        split at added
        · exact nanos_lt_of_addSteps added
        · cases added

/-- Nanoseconds that fill the last second are far below 64 bits. -/
theorem Sum.Fills.lt_wordLimit {nanos : Nat} (fills : sum.Fills nanos) : nanos < wordLimit := by
  have limit : nanosPerSecond < wordLimit := by decide
  have second := fills.1
  omega

/-- The number of a component fills the last second if it is added as nanoseconds. -/
theorem abandoned_addComponent_none_iff (small : sum.nanos < nanosPerSecond)
    (named : timeUnit? letters = some unit) :
    Abandoned (sum.addComponent count none letters) ↔
      unit.wholeStep = 1 ∧ sum.Fills (count * unit.length) := by
  rw [addComponent_of_timeUnit? sum count named, abandoned_bind_iff]
  constructor
  · rintro (beyond | ⟨steps, fits, abandoned⟩)
    · exact absurd beyond not_abandoned_fit64
    · obtain ⟨fine, fills⟩ := (abandoned_addSteps_iff small).1 abandoned
      obtain ⟨-, rfl⟩ := eq_of_fit64_eq_ok fits
      rw [fine, Nat.div_one] at fills
      exact ⟨fine, fills⟩
  · rintro ⟨fine, fills⟩
    refine .inr ⟨count * unit.length, ?_, (abandoned_addSteps_iff small).2 ⟨fine, fills⟩⟩
    rw [fine, Nat.div_one]
    exact fit64_of_lt fills.lt_wordLimit

/-- The fraction of a component fills the last second if it is added as nanoseconds. -/
theorem abandoned_addFraction_iff (small : sum.nanos < nanosPerSecond) {fraction : Fraction}
    (positive : 0 < fraction.denominator) :
    Abandoned (sum.addFraction unit fraction) ↔ unit.fractionStep = some 1 ∧
      fraction.numerator * unit.length < wordLimit ∧
      ∃ nanos, fraction.denominator * nanos = fraction.numerator * unit.length ∧
        sum.Fills nanos := by
  rw [Sum.addFraction]
  split
  · next coarse =>
      refine iff_of_false not_abandoned_fault ?_
      rintro ⟨fine, -⟩
      rw [coarse] at fine
      cases fine
  · next step found =>
      rw [found, abandoned_bind_iff]
      constructor
      · rintro (beyond | ⟨scaled, fits, abandoned⟩)
        · exact absurd beyond not_abandoned_fit64
        obtain ⟨below, rfl⟩ := eq_of_fit64_eq_ok fits
        split at abandoned
        · next divides =>
            obtain ⟨rfl, fills⟩ := (abandoned_addSteps_iff small).1 abandoned
            rw [Nat.div_one] at below divides fills
            exact ⟨rfl, below, _, Nat.mul_div_cancel' (Nat.dvd_of_mod_eq_zero divides), fills⟩
        · exact absurd abandoned not_abandoned_fault
      · rintro ⟨fine, below, nanos, exact, fills⟩
        obtain rfl := Option.some.inj fine
        refine .inr ⟨fraction.numerator * unit.length, ?_, ?_⟩
        · rw [Nat.div_one]
          exact fit64_of_lt below
        · rw [← exact, if_pos (Nat.mul_mod_right _ _), Nat.mul_div_cancel_left _ positive]
          exact (abandoned_addSteps_iff small).2 ⟨rfl, fills⟩

end

/-! ### The machine -/

/-- What stands behind a unit: nothing, or a digit or white space that ends it. -/
def Closed (rest : List Char) : Prop :=
  ∀ c ∈ rest.head?, c.isDigit = true ∨ Text.isSpace c = true

section

variable {offset : Nat} {phase : Phase} {sum : Sum} {state : Phase × Sum} {text front : List Char}

theorem nanos_lt_of_reaches (reaches : Reaches front state) :
    state.2.nanos < nanosPerSecond := by
  induction front using List.reverseRecOn generalizing state with
  | nil =>
      cases reaches
      decide
  | append_singleton front c ih =>
      obtain ⟨phase, sum, earlier, steps⟩ := reaches_append_singleton_iff.1 reaches
      have small := ih earlier
      cases steps with
      | addBegin digit added => exact nanos_lt_of_addComponent added
      | addWait space added => exact nanos_lt_of_addComponent added
      | _ => exact small

theorem not_abandoned_push {fraction : Fraction} {digit : Nat} :
    ¬Abandoned (fraction.push digit) := by
  rw [Fraction.push, abandoned_bind_iff]
  rintro (beyond | ⟨denominator, -, abandoned⟩)
  · exact not_abandoned_fit64 beyond
  rcases abandoned_bind_iff.1 abandoned with beyond | ⟨numerator, -, abandoned⟩
  · exact not_abandoned_fit64 beyond
  · exact not_abandoned_ok abandoned

/-- Nothing is added before the machine has come to a unit. -/
theorem not_abandoned_step (noUnit : ∀ count fraction letters, phase ≠ .unit count fraction letters)
    {c : Char} : ¬Abandoned (step offset c (phase, sum)) := by
  cases phase with
  | start mark =>
      rw [step]
      split
      · exact not_abandoned_ok
      split
      · exact not_abandoned_ok
      · exact not_abandoned_fault
  | whole count =>
      rw [step]
      split
      · rw [abandoned_bind_iff]
        rintro (beyond | ⟨value, -, abandoned⟩)
        · exact not_abandoned_fit64 beyond
        · exact not_abandoned_ok abandoned
      split
      · exact not_abandoned_ok
      split
      · exact not_abandoned_ok
      split
      · exact not_abandoned_ok
      · exact not_abandoned_fault
  | fraction count fraction mark =>
      rw [step]
      split
      · rw [abandoned_bind_iff]
        rintro (beyond | ⟨value, -, abandoned⟩)
        · exact not_abandoned_push beyond
        · exact not_abandoned_ok abandoned
      split
      · exact not_abandoned_ok
      split
      · exact not_abandoned_ok
      · exact not_abandoned_fault
  | unit count fraction letters => exact absurd rfl (noUnit count fraction letters)

/-- A digit or white space behind a unit adds the component. -/
theorem abandoned_step_unit_iff {count : Nat} {fraction : Option Fraction} {letters : List Char}
    {c : Char} : Abandoned (step offset c (.unit count fraction letters, sum)) ↔
      (c.isDigit = true ∨ Text.isSpace c = true) ∧
        Abandoned (sum.addComponent count fraction letters) := by
  have adds : ∀ next : Sum → Phase × Sum,
      Abandoned (do return next (← sum.addComponent count fraction letters)) ↔
        Abandoned (sum.addComponent count fraction letters) := by
    intro next
    rw [abandoned_bind_iff]
    constructor
    · rintro (abandoned | ⟨total, -, abandoned⟩)
      · exact abandoned
      · exact absurd abandoned not_abandoned_ok
    · exact .inl
  rw [step]
  split
  · next digit =>
      rw [adds fun total => (.whole (Text.digitValue c), total)]
      exact ⟨fun abandoned => ⟨.inl digit, abandoned⟩, And.right⟩
  split
  · next space =>
      rw [adds fun total => (.start (offset + c.utf8Size), total)]
      exact ⟨fun abandoned => ⟨.inr space, abandoned⟩, And.right⟩
  next noDigit noSpace =>
    refine iff_of_false ?_ fun closed => closed.1.elim noDigit noSpace
    split
    · exact not_abandoned_ok
    · exact not_abandoned_fault

theorem not_abandoned_finish
    (noUnit : ∀ count fraction letters, phase ≠ .unit count fraction letters) :
    ¬Abandoned (finish (phase, sum)) := by
  cases phase with
  | start mark => exact not_abandoned_ok
  | whole count => exact not_abandoned_fault
  | fraction count fraction mark =>
      rw [finish]
      split
      · exact not_abandoned_fault
      · exact not_abandoned_fault
  | unit count fraction letters => exact absurd rfl (noUnit count fraction letters)

/-- An abandoned reading comes to a state in which the next step or the end is abandoned. -/
theorem exists_of_abandoned (abandoned : Abandoned (readComponents offset state text)) :
    ∃ front rest reached, text = front ++ rest ∧ advance offset state front = .ok reached ∧
      ((rest = [] ∧ Abandoned (finish reached)) ∨
        ∃ c others, rest = c :: others ∧ Abandoned (step (offset + width front) c reached)) := by
  induction text generalizing offset state with
  | nil => exact ⟨[], [], state, rfl, rfl, .inl ⟨rfl, abandoned⟩⟩
  | cons c text ih =>
      rcases abandoned_bind_iff.1 abandoned with first | ⟨next, steps, later⟩
      · exact ⟨[], c :: text, state, rfl, rfl, .inr ⟨c, text, rfl, first⟩⟩
      · obtain ⟨front, rest, reached, rfl, runs, ends⟩ := ih later
        refine ⟨c :: front, rest, reached, rfl, ?_, ?_⟩
        · rw [advance, steps]
          exact runs
        · rwa [width, List.map_cons, List.sum_cons, ← Nat.add_assoc]

/-- A reading is abandoned where a component is added that ends at its unit. -/
theorem abandoned_readComponents_iff :
    Abandoned (readComponents 0 beginning text) ↔
      ∃ front rest count fraction letters sum, text = front ++ rest ∧ Closed rest ∧
        Reaches front (.unit count fraction letters, sum) ∧
          Abandoned (sum.addComponent count fraction letters) := by
  constructor
  · intro abandoned
    obtain ⟨front, rest, ⟨phase, sum⟩, split, reaches, ends⟩ := exists_of_abandoned abandoned
    by_cases inUnit : ∃ count fraction letters, phase = .unit count fraction letters
    · obtain ⟨count, fraction, letters, rfl⟩ := inUnit
      rcases ends with ⟨rfl, abandoned⟩ | ⟨c, others, rfl, abandoned⟩
      · exact ⟨front, [], count, fraction, letters, sum, split, by simp [Closed], reaches,
          abandoned⟩
      · obtain ⟨closes, abandoned⟩ := abandoned_step_unit_iff.1 abandoned
        refine ⟨front, c :: others, count, fraction, letters, sum, split, ?_, reaches, abandoned⟩
        simpa [Closed] using closes
    · have noUnit : ∀ count fraction letters, phase ≠ .unit count fraction letters :=
        fun count fraction letters same => inUnit ⟨count, fraction, letters, same⟩
      rcases ends with ⟨-, abandoned⟩ | ⟨c, others, -, abandoned⟩
      · exact absurd abandoned (not_abandoned_finish noUnit)
      · exact absurd abandoned (not_abandoned_step noUnit)
  · rintro ⟨front, rest, count, fraction, letters, sum, rfl, closed, reaches, abandoned⟩
    rw [reaches.readComponents_append]
    cases rest with
    | nil => exact abandoned
    | cons c others =>
        apply abandoned_bind_iff.2
        exact .inl (abandoned_step_unit_iff.2 ⟨closed c rfl, abandoned⟩)

end

/-! ### Texts -/

/-- Somewhere in the text a component fills the last second of the components before it, by its
number or by its fraction. -/
inductive FillsLastSecond : List Char → Prop where
  | number {before number point letters rest : List Char} {sum : Sum} {count : Nat}
      {fraction : Option Fraction} {unit : TimeUnit} (sums : Sums before sum)
      (component : Component number point letters count fraction) (closed : Closed rest)
      (named : timeUnit? letters = some unit) (fine : unit.wholeStep = 1)
      (fills : sum.Fills (count * unit.length)) :
      FillsLastSecond (before ++ number ++ point ++ letters ++ rest)
  | fraction {before number point letters rest : List Char} {sum held : Sum} {count nanos : Nat}
      {fraction : Fraction} {unit : TimeUnit} (sums : Sums before sum)
      (component : Component number point letters count (some fraction)) (closed : Closed rest)
      (named : timeUnit? letters = some unit) (fine : unit.fractionStep = some 1)
      (counted : Sums (before ++ number ++ letters) held)
      (fits : fraction.numerator * unit.length < wordLimit)
      (exact : fraction.denominator * nanos = fraction.numerator * unit.length)
      (fills : held.Fills nanos) :
      FillsLastSecond (before ++ number ++ point ++ letters ++ rest)

section

variable {text : List Char}

theorem Pointed.denominator_pos {point : List Char} {fraction : Fraction}
    (pointed : Pointed point (.some fraction)) : 0 < fraction.denominator := by
  cases pointed with
  | some refines =>
      obtain rfl := refines.value
      exact Nat.pow_pos (by decide)

/-- Without its fraction, a component is spelled by its number and its unit. -/
theorem Component.withoutFraction {number point letters : List Char} {count : Nat}
    {fraction : Option Fraction} (component : Component number point letters count fraction) :
    Component number [] letters count none :=
  ⟨component.counts, .none, component.nonempty, component.lettered⟩

/-- Reading components is abandoned where one of them fills the last second, and only there. -/
theorem abandoned_readComponents_iff_fillsLastSecond :
    Abandoned (readComponents 0 beginning text) ↔ FillsLastSecond text := by
  rw [abandoned_readComponents_iff]
  constructor
  · rintro ⟨front, rest, count, fraction, letters, sum, rfl, closed, reaches, abandoned⟩
    have small := nanos_lt_of_reaches reaches
    cases holds_of_reaches reaches with
    | unit sums component =>
        cases named : timeUnit? letters with
        | none =>
            rw [Sum.addComponent, named] at abandoned
            exact absurd abandoned not_abandoned_fault
        | some unit =>
            have number : Abandoned (sum.addComponent count none letters) ↔ _ :=
              abandoned_addComponent_none_iff small named
            cases fraction with
            | none =>
                obtain ⟨fine, fills⟩ := number.1 abandoned
                exact .number sums component closed named fine fills
            -- The number fills the last second, or it is added and the fraction does.
            | some fraction =>
                rw [addComponent_some named] at abandoned
                rcases abandoned_bind_iff.1 abandoned with first | ⟨held, added, second⟩
                · obtain ⟨fine, fills⟩ := number.1 first
                  exact .number sums component closed named fine fills
                · obtain ⟨fine, fits, nanos, exact, fills⟩ :=
                    (abandoned_addFraction_iff (nanos_lt_of_addComponent added)
                      component.pointed.denominator_pos).1 second
                  have counted := (sums.append_component_iff component.withoutFraction).2 added
                  rw [List.append_nil] at counted
                  exact .fraction sums component closed named fine counted fits exact fills
  · intro fillsLast
    cases fillsLast with
    | @number before number point letters rest sum count fraction unit sums component closed named
        fine fills =>
        have reaches := sums.reaches_append_component component
        refine ⟨_, rest, count, fraction, letters, sum, rfl, closed, reaches, ?_⟩
        have first := (abandoned_addComponent_none_iff (nanos_lt_of_reaches reaches) named).2
          ⟨fine, fills⟩
        cases fraction with
        | none => exact first
        | some fraction =>
            rw [addComponent_some named]
            exact abandoned_bind_iff.2 (.inl first)
    | @fraction before number point letters rest sum held count nanos fraction unit sums component
        closed named fine counted fits exact fills =>
        have reaches := sums.reaches_append_component component
        refine ⟨_, rest, count, some fraction, letters, sum, rfl, closed, reaches, ?_⟩
        rw [← List.append_nil (before ++ number)] at counted
        have added := (sums.append_component_iff component.withoutFraction).1 counted
        have second := (abandoned_addFraction_iff (nanos_lt_of_addComponent added)
          component.pointed.denominator_pos).2 ⟨fine, fits, nanos, exact, fills⟩
        rw [addComponent_some named]
        exact abandoned_bind_iff.2 (.inr ⟨held, added, second⟩)

/-- Digits alone are no component, for there is no unit. -/
theorem not_fillsLastSecond_of_digits (numeric : ∀ c ∈ text, c.isDigit = true) :
    ¬FillsLastSecond text := by
  have noComponent : ∀ {before number point letters rest : List Char} {count : Nat}
      {fraction : Option Fraction}, Component number point letters count fraction →
      text ≠ before ++ number ++ point ++ letters ++ rest := by
    rintro before number point letters rest count fraction component rfl
    obtain ⟨c, others, begins⟩ := List.exists_cons_of_ne_nil component.nonempty
    have letter := component.lettered c (by rw [begins]; exact List.mem_cons_self ..)
    have digit := numeric c (by simp [begins])
    rw [(ne_space_of_isUnitLetter letter).1] at digit
    cases digit
  intro fillsLast
  cases fillsLast with
  | number _ component => exact noComponent component rfl
  | fraction _ component => exact noComponent component rfl

theorem not_abandoned_duration {sum : Sum} : ¬Abandoned sum.duration := by
  rw [Sum.duration_def]
  dsimp only
  split
  · exact not_abandoned_ok
  · rintro ⟨cause, ⟨⟩⟩

/-- A text is neither read as a duration nor refused where, in lower case, one of its components
fills the last second of those before it. -/
theorem abandoned_readDuration_iff :
    Abandoned (readDuration text) ↔ FillsLastSecond (Text.lower text) := by
  by_cases digits : text.all Char.isDigit = true
  · have numeric : ∀ c ∈ text, c.isDigit = true := List.all_eq_true.1 digits
    have settled : ∀ c ∈ text, Text.IsSettled c :=
      fun c member => Text.isSettled_of_isDigit (numeric c member)
    rw [Text.lower_of_isSettled settled]
    refine iff_of_false ?_ (not_fillsLastSecond_of_digits numeric)
    rw [readDuration]
    split
    · rintro ⟨cause, ⟨⟩⟩
    · dsimp only
      split
      · split
        · exact not_abandoned_ok
        · rintro ⟨cause, ⟨⟩⟩
      · rintro ⟨cause, ⟨⟩⟩
  · have nonempty : ¬text.isEmpty = true := by
      intro empty
      rw [List.isEmpty_iff.1 empty] at digits
      exact digits rfl
    rw [readDuration, if_neg nonempty, if_neg digits, abandoned_bind_iff,
      ← abandoned_readComponents_iff_fillsLastSecond]
    constructor
    · rintro (abandoned | ⟨sum, -, abandoned⟩)
      · exact abandoned
      · exact absurd abandoned not_abandoned_duration
    · exact .inl

end

end Settings.Literal

namespace Settings

open Literal (FillsLastSecond)

/-- Coercing a text to a type reads a literal of a duration: the text itself, or the first
element of a list that is no duration. -/
inductive ReadsDuration : Tag → String → String → Prop where
  | duration {text : String} : ReadsDuration .duration text text
  | element {text literal : String} {before after : List String}
      (elements : splitText elementDelimiter text = .ok (before ++ literal :: after))
      (sound : ∀ earlier ∈ before, ∃ value, coerce .duration (.text earlier) = .ok value) :
      ReadsDuration (.list .duration) text literal

theorem overruns_iff {text : String} :
    Overruns text ↔ FillsLastSecond (Text.lower (Text.trim text.toList)) :=
  Literal.abandoned_readDuration_iff

/-- The texts that a coercion of a text abandons are those that it reads as durations. -/
theorem abandons_text_iff {tag : Tag} {text : String} :
    Abandons tag (.text text) ↔ ∃ literal, ReadsDuration tag text literal ∧ Overruns literal := by
  constructor
  · intro abandons
    cases abandons with
    | duration overruns => exact ⟨text, .duration, overruns⟩
    | @element _ item before after elements sound overruns =>
        rw [Value.toElements_text] at elements
        cases splits : splitText elementDelimiter text with
        | error fault =>
            rw [splits] at elements
            cases elements
        | ok items =>
            rw [splits] at elements
            have split : items.map Value.text = before ++ item :: after := Except.ok.inj elements
            obtain ⟨before', others, rfl, rfl, rest⟩ := List.map_eq_append_iff.1 split
            obtain ⟨literal, after', rfl, rfl, rfl⟩ := List.map_eq_cons_iff.1 rest
            refine ⟨literal, .element splits ?_, overruns⟩
            exact fun earlier member => sound (.text earlier) (List.mem_map_of_mem member)
  · rintro ⟨literal, reads, overruns⟩
    cases reads with
    | duration => exact .duration overruns
    | @element _ _ before after elements sound =>
        have split : (Value.text text).toElements =
            .ok (before.map .text ++ .text literal :: after.map .text) := by
          rw [Value.toElements_text, elements]
          exact congrArg Except.ok (by simp)
        refine .element split ?_ overruns
        intro earlier member
        obtain ⟨other, listed, rfl⟩ := List.mem_map.1 member
        exact sound other listed

/-- Reading a duration ends with a duration or with an error, unless a component of the text
fills the last second of those before it.  So does every coercion of a text, unless this holds
of a text that it reads as a duration. -/
theorem aborts_duration_iff (text : String) :
    (Outcome.Aborts (readAs .duration Literal.readDuration text) ↔
      FillsLastSecond (Text.lower (Text.trim text.toList))) ∧
    ∀ tag, Outcome.Aborts (coerce tag (.text text)) ↔
      ∃ literal, ReadsDuration tag text literal ∧
        FillsLastSecond (Text.lower (Text.trim literal.toList)) := by
  refine ⟨aborts_readAs_iff.trans overruns_iff, fun tag => ?_⟩
  rw [aborts_coerce_iff, abandons_text_iff]
  simp only [overruns_iff]

/-- The last second can also be filled by the half behind a point. -/
example : readAs .duration Literal.readDuration "18446744073709551614s 500000000ns 1.5s" =
    .error (.aborted .durationCarry) :=
  rfl

/-- The greatest number of seconds, and nanoseconds that make up one more. -/
theorem aborts_duration_seconds :
    Outcome.Aborts (readAs .duration Literal.readDuration
      "18446744073709551615s 1000000000ns") ∧
    Outcome.Aborts (coerce .duration (.text "18446744073709551615s 1000000000ns")) :=
  ⟨⟨.durationCarry, rfl⟩, ⟨.durationCarry, rfl⟩⟩

end Settings
