import Settings.Proofs.CanonicalText
import Settings.Proofs.Durations.Spelling
import Settings.Proofs.Failures

/-!
Printed durations, and which of them are read back.

A printed duration is a count of one unit, or a count of seconds and one of nanoseconds.
The machine that reads components takes each of them as one (`reaches_counted`), and adds it
to its sum without loss as long as the sum fits (`Literal.Sum.exists_add_eq_ok`).  Counts of
milliseconds and microseconds are added as nanoseconds, which have 64 bits: a duration whose
count fits and whose nanoseconds do not is printed all the same, and it is the only kind that
cannot be read back.
-/

namespace Settings

namespace Text

/-! ### Lower case -/

/-- A character of ASCII that is no capital letter. -/
def IsSettled (c : Char) : Prop := c.toNat < 0x80 ∧ c.toLower = c

instance (c : Char) : Decidable (IsSettled c) :=
  inferInstanceAs (Decidable (_ ∧ _))

theorem isSettled_of_isDigit {c : Char} (digit : c.isDigit = true) : IsSettled c := by
  have high : c.toNat ≤ 57 := (Char.isDigit_iff_toNat.1 digit).2
  exact ⟨by omega, toLower_of_isDigit digit⟩

/-- The character is its own lower case wherever it stands. -/
def IsLowered (c : Char) : Prop := lowerChar c = [c] ∧ c.toNat ≠ 0x3A3

instance (c : Char) : Decidable (IsLowered c) :=
  inferInstanceAs (Decidable (_ ∧ _))

theorem IsSettled.isLowered {c : Char} (settled : IsSettled c) : IsLowered c := by
  obtain ⟨ascii, small⟩ := settled
  refine ⟨?_, by omega⟩
  rw [lowerChar, if_pos ascii, small]

theorem lowerAfter_of_isLowered {text : List Char} (lowered : ∀ c ∈ text, IsLowered c)
    (before : List Char) : lowerAfter before text = text := by
  induction text generalizing before with
  | nil => rfl
  | cons c rest ih =>
      obtain ⟨form, noSigma⟩ := lowered c (List.mem_cons_self ..)
      have others := ih fun d member => lowered d (List.mem_cons_of_mem _ member)
      rw [lowerAfter, if_neg noSigma, form, others]
      rfl

theorem lower_of_isLowered {text : List Char} (lowered : ∀ c ∈ text, IsLowered c) :
    lower text = text :=
  lowerAfter_of_isLowered lowered []

/-- A text without capital letters is its own lower case. -/
theorem lower_of_isSettled {text : List Char} (settled : ∀ c ∈ text, IsSettled c) :
    lower text = text :=
  lower_of_isLowered fun c member => (settled c member).isLowered

end Text

namespace Literal

/-! ### Sums -/

/-- The nanoseconds of a sum. -/
def Sum.total (sum : Sum) : Nat := sum.seconds * nanosPerSecond + sum.nanos

/-- The seconds of a total in range fit into 64 bits. -/
theorem lt_wordLimit_of_mul_add {count : Nat} (rest : Nat)
    (fits : count * nanosPerSecond + rest < wordLimit * nanosPerSecond) : count < wordLimit :=
  Nat.lt_of_mul_lt_mul_right (Nat.lt_of_le_of_lt (Nat.le_add_right _ rest) fits)

/-- Nothing is lost by an addition whose nanoseconds fit into 64 bits, if the total is in the
range of durations. -/
theorem Sum.exists_add_eq_ok (sum : Sum) (seconds nanos : Nat)
    (nanosFit : sum.nanos + nanos < wordLimit)
    (totalFits : sum.total + seconds * nanosPerSecond + nanos < wordLimit * nanosPerSecond) :
    ∃ result, sum.add seconds nanos = .ok result ∧ result.nanos < nanosPerSecond ∧
      result.total = sum.total + seconds * nanosPerSecond + nanos := by
  have second : 0 < nanosPerSecond := by decide
  by_cases carry : nanosPerSecond < sum.nanos + nanos
  · have split := Nat.div_add_mod' (sum.nanos + nanos) nanosPerSecond
    have rest := Nat.mod_lt (sum.nanos + nanos) second
    have same : (sum.seconds + (seconds + (sum.nanos + nanos) / nanosPerSecond)) * nanosPerSecond +
        (sum.nanos + nanos) % nanosPerSecond = sum.total + seconds * nanosPerSecond + nanos := by
      rw [Sum.total, Nat.add_mul, Nat.add_mul]
      omega
    rw [← same] at totalFits
    have allFit := lt_wordLimit_of_mul_add _ totalFits
    have carriedFits : seconds + (sum.nanos + nanos) / nanosPerSecond < wordLimit := by omega
    refine ⟨⟨_, _⟩, ?_, rest, same⟩
    simp only [Sum.add, fit64_of_lt nanosFit, ok_bind, if_pos carry, fit64_of_lt carriedFits,
      fit64_of_lt allFit, if_pos rest]
    rfl
  · have same : (sum.seconds + seconds) * nanosPerSecond + (sum.nanos + nanos) =
        sum.total + seconds * nanosPerSecond + nanos := by
      rw [Sum.total, Nat.add_mul]
      omega
    rw [← same] at totalFits ⊢
    have allFit := lt_wordLimit_of_mul_add _ totalFits
    by_cases rest : sum.nanos + nanos < nanosPerSecond
    · refine ⟨⟨_, _⟩, ?_, rest, rfl⟩
      simp only [Sum.add, fit64_of_lt nanosFit, ok_bind, pure_bind, if_neg carry,
        fit64_of_lt allFit, if_pos rest]
      rfl
    -- The nanoseconds make up exactly one second, which is carried last.
    · have next : sum.seconds + seconds + 1 < wordLimit := by
        apply lt_wordLimit_of_mul_add 0
        rw [Nat.add_mul]
        omega
      refine ⟨⟨sum.seconds + seconds + 1, sum.nanos + nanos - nanosPerSecond⟩, ?_, ?_, ?_⟩
      · simp only [Sum.add, fit64_of_lt nanosFit, ok_bind, pure_bind, if_neg carry,
          fit64_of_lt allFit, if_neg rest, if_pos next]
        rfl
      · show sum.nanos + nanos - nanosPerSecond < nanosPerSecond
        omega
      · show (sum.seconds + seconds + 1) * nanosPerSecond + (sum.nanos + nanos - nanosPerSecond) = _
        rw [Nat.add_mul _ 1]
        omega

/-! ### Components -/

/-- The letters name the unit in lower case, and nothing else can be among them. -/
structure Spells (letters : List Char) (length : Nat) : Prop where
  nonempty : letters ≠ []
  lettered : ∀ c ∈ letters, isUnitLetter c = true
  unspaced : ∀ c ∈ letters, c.isDigit = false ∧ Text.isSpace c = false
  settled : ∀ c ∈ letters, Text.IsSettled c
  named : ∃ unit, timeUnit? letters = some unit ∧ unit.length = length ∧
    unit.wholeStep = if nanosPerSecond ∣ length then nanosPerSecond else 1

theorem spells_label : ∀ entry ∈ Duration.labels, Spells entry.2.toList entry.1 := by
  intro entry listed
  simp only [Duration.labels, List.mem_cons, List.not_mem_nil, or_false] at listed
  rcases listed with rfl | rfl | rfl | rfl | rfl | rfl | rfl
  all_goals
    refine ⟨by decide, ?_, ?_, ?_, _, rfl, rfl, by decide⟩
    -- The letters are spelled out first: there is an instance that would try every character.
    all_goals
      simp
      decide

section

variable (sum : Sum) (count : Nat) {length : Nat} {letters : List Char}

theorem addComponent_of_timeUnit? {unit : TimeUnit} (found : timeUnit? letters = some unit) :
    sum.addComponent count none letters =
      (fit64 (count * (unit.length / unit.wholeStep)) >>= sum.addSteps unit.wholeStep) := by
  simp only [Sum.addComponent, found, bind_pure]

/-- A component is added without loss if the total is in range, and if the component is in a
unit of whole seconds or its nanoseconds fit into 64 bits. -/
theorem exists_addComponent_eq_ok (spells : Spells letters length)
    (small : sum.nanos < nanosPerSecond)
    (fits : nanosPerSecond ∣ length ∨ sum.nanos + count * length < wordLimit)
    (totalFits : sum.total + count * length < wordLimit * nanosPerSecond) :
    ∃ result, sum.addComponent count none letters = .ok result ∧
      result.nanos < nanosPerSecond ∧ result.total = sum.total + count * length := by
  obtain ⟨unit, found, rfl, step⟩ := spells.named
  rw [addComponent_of_timeUnit? sum count found]
  by_cases whole : nanosPerSecond ∣ unit.length
  · rw [step, if_pos whole]
    have seconds : count * (unit.length / nanosPerSecond) * nanosPerSecond =
        count * unit.length := by
      rw [Nat.mul_assoc, Nat.div_mul_cancel whole]
    have secondsFit : count * (unit.length / nanosPerSecond) < wordLimit := by
      apply lt_wordLimit_of_mul_add sum.total
      omega
    have nanosFit : sum.nanos + 0 < wordLimit := Nat.lt_trans small (by decide)
    have added := Sum.exists_add_eq_ok sum (count * (unit.length / nanosPerSecond)) 0 nanosFit
      (by rwa [seconds, Nat.add_zero])
    rw [seconds, Nat.add_zero] at added
    rw [fit64_of_lt secondsFit, ok_bind, Sum.addSteps, if_neg (by decide)]
    exact added
  · have nanosFit : sum.nanos + count * unit.length < wordLimit := fits.resolve_left whole
    have added := Sum.exists_add_eq_ok sum 0 (count * unit.length) nanosFit
      (by rwa [Nat.zero_mul, Nat.add_zero])
    rw [Nat.zero_mul, Nat.add_zero] at added
    rw [step, if_neg whole, Nat.div_one, fit64_of_lt (by omega), ok_bind, Sum.addSteps, if_pos rfl]
    exact added

/-- A component in a unit below the second is refused if its nanoseconds exceed 64 bits. -/
theorem addComponent_of_le (spells : Spells letters length) (below : ¬nanosPerSecond ∣ length)
    (exceeds : wordLimit ≤ count * length) :
    sum.addComponent count none letters = fault .unrepresentable := by
  obtain ⟨unit, found, rfl, step⟩ := spells.named
  rw [addComponent_of_timeUnit? sum count found, step, if_neg below, Nat.div_one,
    fit64_of_le exceeds]
  rfl

/-- A printed number is spelled by its digits. -/
theorem counts_ofNat (fits : count < wordLimit) : Counts (Text.ofNat count) count where
  first := by
    obtain ⟨c, rest, digits⟩ := List.exists_cons_of_ne_nil (Text.ofNat_ne_nil count)
    exact ⟨c, rest, digits, Text.isDigit_of_mem_ofNat (by rw [digits]; exact List.mem_cons_self ..)⟩
  spaced := fun c member => .inl (Text.isDigit_of_mem_ofNat member)
  value := by
    have digits : (Text.ofNat count).filter Char.isDigit = Text.ofNat count :=
      List.filter_eq_self.2 fun c => Text.isDigit_of_mem_ofNat
    rw [numberOf, digits, Text.digitsValue_ofNat]
  fits := fits

/-- A printed count and its label are spelled as a component. -/
theorem Spells.component (spells : Spells letters length) (fits : count < wordLimit) :
    Component (Text.ofNat count ++ [' ']) [] letters count none where
  counts := (counts_append_singleton_iff (Text.ofNat_ne_nil count)).2
    ⟨fits, count, counts_ofNat count fits, .inr ⟨by decide, rfl⟩⟩
  pointed := .none
  nonempty := spells.nonempty
  lettered := spells.lettered

/-! ### Whole texts -/

/-- The definition at a sum with a given total. -/
theorem Sum.duration_of_total {duration : Duration} (same : sum.total = duration.nanos) :
    sum.duration = .ok duration := by
  have total : sum.seconds * nanosPerSecond + sum.nanos = duration.nanos := same
  have found : Duration.ofNanos? (sum.seconds * nanosPerSecond + sum.nanos) = some duration := by
    rw [total]
    exact dif_pos duration.inRange
  rw [Sum.duration_def]
  dsimp only
  rw [found]

/-- A text with a space and without capital letters is read as a sum of components. -/
theorem readDuration_of_isSettled {text : List Char} (spaced : ' ' ∈ text)
    (settled : ∀ c ∈ text, Text.IsSettled c) :
    readDuration text = (do
      let sum ← readComponents 0 (.start 0, ⟨0, 0⟩) text
      sum.duration) := by
  have nonempty : text.isEmpty = false := List.isEmpty_eq_false_iff.2 (List.ne_nil_of_mem spaced)
  have mixed : text.all Char.isDigit = false := by
    apply Bool.eq_false_iff.2
    intro digits
    have digit := List.all_eq_true.1 digits ' ' spaced
    cases digit
  rw [readDuration, if_neg (by simp [nonempty]), if_neg (by simp [mixed]),
    Text.lower_of_isSettled settled]

end

end Literal

namespace Duration

open Literal (Spells Sum Sums Reaches beginning readDuration readComponents)

variable {count length : Nat} {label : String}

theorem toList_counted (count : Nat) (label : String) :
    (counted count label).toList = Text.ofNat count ++ ' ' :: label.toList := by
  simp [counted]

theorem isSettled_of_mem_counted (spells : Spells label.toList length) {c : Char}
    (member : c ∈ (counted count label).toList) : Text.IsSettled c := by
  rw [toList_counted] at member
  rcases List.mem_append.1 member with digit | member
  · exact Text.isSettled_of_isDigit (Text.isDigit_of_mem_ofNat digit)
  rcases List.mem_cons.1 member with rfl | letter
  · decide
  · exact spells.settled c letter

/-- Behind components, the machine takes a printed count and is then at the end of its unit. -/
theorem reaches_counted {before : List Char} {sum : Sum} (sums : Sums before sum)
    (spells : Spells label.toList length) (fits : count < wordLimit) :
    Reaches (before ++ (counted count label).toList) (.unit count none label.toList, sum) := by
  have reaches := sums.reaches_append_component (spells.component count fits)
  have text : before ++ (counted count label).toList =
      before ++ (Text.ofNat count ++ [' ']) ++ [] ++ label.toList := by
    simp [toList_counted]
  rwa [text]

/-- A printed count is read as one component. -/
theorem readDuration_counted (spells : Spells label.toList length) (fits : count < wordLimit) :
    readDuration (counted count label).toList =
      (do
        let sum ← Sum.addComponent ⟨0, 0⟩ count none label.toList
        sum.duration) := by
  rw [Literal.readDuration_of_isSettled]
  · have nothing : Sums [] ⟨0, 0⟩ := rfl
    have reads := (reaches_counted nothing spells fits).readComponents_eq
    rw [List.nil_append, beginning, Literal.finish] at reads
    rw [reads]
  · rw [toList_counted]
    exact List.mem_append_right _ (List.mem_cons_self ..)
  · intro c member
    exact isSettled_of_mem_counted spells member

/-- Two printed counts are read as two components. -/
theorem readDuration_counted_append {count' length' : Nat} {label' : String}
    (spells : Spells label.toList length) (fits : count < wordLimit)
    (spells' : Spells label'.toList length') (fits' : count' < wordLimit) :
    readDuration (counted count label ++ " " ++ counted count' label').toList =
      (do
        let sum ← Sum.addComponent ⟨0, 0⟩ count none label.toList
        let sum ← sum.addComponent count' none label'.toList
        sum.duration) := by
  have text : (counted count label ++ " " ++ counted count' label').toList =
      (counted count label).toList ++ ' ' :: (counted count' label').toList := by
    simp
  rw [Literal.readDuration_of_isSettled]
  · have nothing : Sums [] ⟨0, 0⟩ := rfl
    have first := reaches_counted nothing spells fits
    rw [List.nil_append] at first
    rw [text]
    cases added : Sum.addComponent ⟨0, 0⟩ count none label.toList with
    | error failure =>
        have fails := first.readComponents_append (' ' :: (counted count' label').toList)
        have space : ∀ offset, Literal.step offset ' ' (.unit count none label.toList, ⟨0, 0⟩) =
            .error failure := by
          intro offset
          have adds : Literal.step offset ' ' (.unit count none label.toList, ⟨0, 0⟩) = (do
              return (.start (offset + ' '.utf8Size),
                ← Sum.addComponent ⟨0, 0⟩ count none label.toList)) := rfl
          rw [adds, added, error_bind]
        rw [readComponents, space, error_bind, beginning] at fails
        rw [fails, error_bind, error_bind]
    | ok sum =>
        have blank : Text.isSpace ' ' = true := by decide
        have space := Literal.reaches_append_singleton_iff.2 ⟨_, _, first, .addWait blank added⟩
        have sums := (Literal.sums_iff_of_reaches space).2 rfl
        have reads := (reaches_counted sums spells' fits').readComponents_eq
        rw [List.append_assoc, List.singleton_append, beginning, Literal.finish] at reads
        rw [reads, ok_bind]
  · rw [text]
    exact List.mem_append_right _ (List.mem_cons_self ..)
  · intro c member
    rw [String.toList_append, String.toList_append] at member
    rcases List.mem_append.1 member with member | member
    · rcases List.mem_append.1 member with member | member
      · exact isSettled_of_mem_counted spells member
      · rw [List.mem_singleton.1 member]
        decide
    · exact isSettled_of_mem_counted spells' member

/-- A text from a number to a label has no white space at its ends. -/
theorem hasBlankEnd_of_spells (spells : Spells label.toList length) (middle : List Char) :
    Text.hasBlankEnd (Text.ofNat count ++ (middle ++ label.toList)) = false := by
  apply Text.hasBlankEnd_append _ _ (Text.ofNat_ne_nil count) spells.nonempty
  · exact Text.hasBlankEnd_of_forall fun c => Text.isSpace_of_mem_ofNat
  · exact Text.hasBlankEnd_of_forall fun c member => (spells.unspaced c member).2

section

variable {duration : Duration}

/-- A count of a unit is read as the duration if it is added as seconds, or if its
nanoseconds fit into 64 bits. -/
theorem readDuration_counted_eq_ok (spells : Spells label.toList length)
    (fits : count < wordLimit) (whole : count * length = duration.nanos)
    (fine : nanosPerSecond ∣ length ∨ duration.nanos < wordLimit) :
    readDuration (counted count label).toList = .ok duration := by
  have inRange := duration.inRange
  rw [← whole] at fine inRange
  have zero : (Sum.mk 0 0).total = 0 := rfl
  obtain ⟨sum, added, -, total⟩ := Literal.exists_addComponent_eq_ok ⟨0, 0⟩ count spells
    (by decide) (by rwa [Nat.zero_add]) (by rwa [zero, Nat.zero_add])
  rw [zero, Nat.zero_add, whole] at total
  rw [readDuration_counted spells fits, added, ok_bind, Sum.duration_of_total _ total]

/-- A count of a unit below the second is refused if its nanoseconds exceed 64 bits. -/
theorem readDuration_counted_eq_fault (spells : Spells label.toList length)
    (fits : count < wordLimit) (whole : count * length = duration.nanos)
    (below : ¬nanosPerSecond ∣ length) (exceeds : wordLimit ≤ duration.nanos) :
    readDuration (counted count label).toList = Literal.fault .unrepresentable := by
  rw [← whole] at exceeds
  rw [readDuration_counted spells fits, Literal.addComponent_of_le _ _ spells below exceeds]
  rfl

theorem spells_seconds : Spells "s".toList nanosPerSecond :=
  Literal.spells_label (nanosPerSecond, "s") (by decide)

theorem spells_nanos : Spells "ns".toList 1 :=
  Literal.spells_label (1, "ns") (by decide)

/-- Seconds and nanoseconds are read as the duration. -/
theorem readDuration_split (duration : Duration) :
    readDuration (counted duration.seconds "s" ++ " " ++
      counted duration.subsecondNanos "ns").toList = .ok duration := by
  have inRange := duration.inRange
  have split : duration.seconds * nanosPerSecond + duration.subsecondNanos = duration.nanos :=
    Nat.div_add_mod' duration.nanos nanosPerSecond
  have small : duration.subsecondNanos < nanosPerSecond := Nat.mod_lt _ (by decide)
  have room : nanosPerSecond + nanosPerSecond < wordLimit := by decide
  have zero : (Sum.mk 0 0).total = 0 := rfl
  rw [← split] at inRange
  obtain ⟨sum, first, sumSmall, seconds⟩ := Literal.exists_addComponent_eq_ok ⟨0, 0⟩
    duration.seconds spells_seconds (by decide) (.inl (Nat.dvd_refl _)) (by rw [zero]; omega)
  rw [zero, Nat.zero_add] at seconds
  obtain ⟨result, second, -, total⟩ := Literal.exists_addComponent_eq_ok sum
    duration.subsecondNanos spells_nanos sumSmall (.inr (by omega))
    (by rwa [seconds, Nat.mul_one])
  rw [seconds, Nat.mul_one, split] at total
  rw [readDuration_counted_append spells_seconds (Literal.lt_wordLimit_of_mul_add _ inRange)
    spells_nanos (by omega), first, ok_bind, second, ok_bind, Sum.duration_of_total _ total]

/-! ### The unit of a printed duration -/

/-- The entry is that of the largest unit that divides the nanoseconds. -/
structure IsHighest (nanos : Nat) (entry : Nat × String) : Prop where
  listed : entry ∈ labels
  divides : entry.1 ∣ nanos
  largest : ∀ other ∈ labels, other.1 ∣ nanos → other.1 ≤ entry.1

/-- The units are listed from the largest to the smallest, and the smallest divides
everything, so the first that divides is found and is the largest. -/
theorem isHighest_find? (nanos : Nat) :
    IsHighest nanos ((labels.find? fun unit => nanos % unit.1 == 0).getD (1, "ns")) := by
  have descending : labels.Pairwise fun larger smaller => smaller.1 ≤ larger.1 := by decide
  cases found : labels.find? fun unit => nanos % unit.1 == 0 with
  | none =>
      have last := List.find?_eq_none.1 found (1, "ns") (by decide)
      exact absurd (by simp [Nat.mod_one]) last
  | some entry =>
      obtain ⟨divides, largest⟩ := largest_of_find? descending found
      rw [Option.getD_some]
      exact ⟨List.mem_of_find?_eq_some found, divides, largest⟩

/-- A duration that is not zero is printed in the largest unit that divides it, and split if
its count in that unit exceeds 64 bits. -/
theorem exists_text_eq (nonzero : duration.nanos ≠ 0) :
    ∃ entry, IsHighest duration.nanos entry ∧ duration.text =
      if duration.nanos / entry.1 < wordLimit then counted (duration.nanos / entry.1) entry.2
      else counted duration.seconds "s" ++ " " ++ counted duration.subsecondNanos "ns" := by
  refine ⟨_, isHighest_find? duration.nanos, ?_⟩
  rw [text, if_neg nonzero]

/-- The duration is printed as a count of milliseconds or of microseconds that fits into 64
bits, and its nanoseconds do not fit. -/
def Outgrown (duration : Duration) : Prop :=
  wordLimit ≤ duration.nanos ∧ ¬nanosPerSecond ∣ duration.nanos ∧
    ∃ length ∈ [1000000, 1000], length ∣ duration.nanos ∧ duration.nanos < wordLimit * length

/-- Said by the largest unit that divides the nanoseconds. -/
theorem outgrown_iff {entry : Nat × String} (highest : IsHighest duration.nanos entry) :
    duration.Outgrown ↔ wordLimit ≤ duration.nanos ∧ ¬nanosPerSecond ∣ entry.1 ∧
      duration.nanos < wordLimit * entry.1 := by
  constructor
  · rintro ⟨exceeds, fractional, length, named, divides, fits⟩
    have units : ∀ length ∈ [1000000, 1000], ∃ other ∈ labels, other.1 = length := by decide
    obtain ⟨other, listed, rfl⟩ := units length named
    have larger := highest.largest other listed divides
    refine ⟨exceeds, fun whole => fractional (Nat.dvd_trans whole highest.divides), ?_⟩
    exact Nat.lt_of_lt_of_le fits (Nat.mul_le_mul_left _ larger)
  · rintro ⟨exceeds, fractional, fits⟩
    have kinds : ∀ entry ∈ labels, nanosPerSecond ∣ entry.1 ∨ entry.1 < nanosPerSecond := by decide
    have below : ∀ entry ∈ labels, nanosPerSecond ∣ entry.1 ∨ entry.1 = 1 ∨
        entry.1 ∈ [1000000, 1000] := by decide
    refine ⟨exceeds, ?_, entry.1, ?_, highest.divides, fits⟩
    · intro whole
      have larger := highest.largest (nanosPerSecond, "s") (by decide) whole
      have smaller := (kinds entry highest.listed).resolve_left fractional
      exact Nat.lt_irrefl _ (Nat.lt_of_le_of_lt larger smaller)
    · rcases (below entry highest.listed).resolve_left fractional with single | named
      · rw [single, Nat.mul_one] at fits
        exact absurd fits (Nat.not_lt.2 exceeds)
      · exact named

/-- A printed duration is refused for its size if it is outgrown, and read back if not. -/
theorem readDuration_text (duration : Duration) :
    (duration.Outgrown → readDuration duration.text.toList = Literal.fault .unrepresentable) ∧
      (¬duration.Outgrown → readDuration duration.text.toList = .ok duration) := by
  by_cases zero : duration.nanos = 0
  · have text : duration.text = counted 0 "ms" := by
      rw [Duration.text, if_pos zero]
      decide
    have whole : 0 * 1000000 = duration.nanos := by rw [zero, Nat.zero_mul]
    have small : duration.nanos < wordLimit := by
      rw [zero]
      decide
    rw [text]
    constructor
    · rintro ⟨exceeds, -⟩
      exact absurd small (Nat.not_lt.2 exceeds)
    · intro _
      exact readDuration_counted_eq_ok (Literal.spells_label (1000000, "ms") (by decide))
        (by decide) whole (.inr small)
  · obtain ⟨entry, highest, text⟩ := exists_text_eq zero
    have spells := Literal.spells_label entry highest.listed
    have whole := Nat.div_mul_cancel highest.divides
    have positive := Nat.pos_of_dvd_of_pos highest.divides (Nat.pos_of_ne_zero zero)
    rw [text, outgrown_iff highest]
    by_cases fits : duration.nanos / entry.1 < wordLimit
    · have below := (Nat.div_lt_iff_lt_mul positive).1 fits
      rw [if_pos fits]
      constructor
      · rintro ⟨exceeds, fractional, -⟩
        exact readDuration_counted_eq_fault spells fits whole fractional exceeds
      · intro notOutgrown
        apply readDuration_counted_eq_ok spells fits whole
        by_cases fractional : nanosPerSecond ∣ entry.1
        · exact .inl fractional
        · exact .inr (Nat.not_le.1 fun exceeds => notOutgrown ⟨exceeds, fractional, below⟩)
    · rw [if_neg fits]
      constructor
      · rintro ⟨-, -, below⟩
        exact absurd ((Nat.div_lt_iff_lt_mul positive).2 below) fits
      · intro _
        exact readDuration_split duration

theorem hasBlankEnd_text (duration : Duration) :
    Text.hasBlankEnd duration.text.toList = false := by
  by_cases zero : duration.nanos = 0
  · rw [text, if_pos zero]
    decide
  · obtain ⟨entry, highest, text⟩ := exists_text_eq zero
    rw [text]
    split
    · rw [toList_counted]
      exact hasBlankEnd_of_spells (Literal.spells_label entry highest.listed) [' ']
    · have ends : (counted duration.seconds "s" ++ " " ++
          counted duration.subsecondNanos "ns").toList = Text.ofNat duration.seconds ++
            ((" s ".toList ++ Text.ofNat duration.subsecondNanos ++ [' ']) ++ "ns".toList) := by
        simp [counted]
      rw [ends]
      exact hasBlankEnd_of_spells spells_nanos _

/-- The text of an outgrown duration is refused for its size. -/
theorem readAs_text_of_outgrown (outgrown : duration.Outgrown) :
    readAs .duration readDuration duration.text =
      .error (.failed (.unreadable duration.text .duration (.duration .unrepresentable))) := by
  have trimmed := Text.trim_of_hasBlankEnd (hasBlankEnd_text duration)
  have refused := (readDuration_text duration).1 outgrown
  simp only [readAs, trimmed, refused]
  rfl

/-- A duration is read from its own text unless it is outgrown. -/
theorem readsBack_iff_not_outgrown (duration : Duration) :
    duration.ReadsBack ↔ ¬duration.Outgrown := by
  constructor
  · intro readsBack outgrown
    rw [ReadsBack, readAs_text_of_outgrown outgrown] at readsBack
    cases readsBack
  · intro inside
    exact readAs_eq_ok (hasBlankEnd_text duration) ((readDuration_text duration).2 inside)

/-- The shortest outgrown duration, a little more than 584 years, is not read back. -/
theorem exists_outgrown_text :
    ∃ duration : Duration, duration.nanos = 18446744073709552000 ∧
      duration.text = "18446744073709552 us" ∧
      readAs .duration readDuration duration.text =
        .error (.failed (.unreadable "18446744073709552 us" .duration
          (.duration .unrepresentable))) ∧
      ¬duration.ReadsBack := by
  have text : Duration.text ⟨18446744073709552000, by decide⟩ = "18446744073709552 us" := by
    decide
  have refused : readAs .duration readDuration "18446744073709552 us" =
      .error (.failed (.unreadable "18446744073709552 us" .duration
        (.duration .unrepresentable))) := rfl
  refine ⟨⟨18446744073709552000, by decide⟩, rfl, text, ?_, ?_⟩
  · rw [text, refused]
  · rw [ReadsBack, text, refused]
    rintro ⟨⟩

end

end Duration

end Settings
