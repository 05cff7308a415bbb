import Mathlib.Algebra.Group.Nat.Defs
import Settings.Proofs.Durations

/-!
The texts in which durations are written.

A duration is written as its count in the largest unit that divides it, or, where that count
leaves 64 bits, as seconds and nanoseconds.  The two forms are told apart by what stands behind
the first count, and each is read in one way only (`Written.unique`), so no two durations have
the same text.  That holds also of the texts that are too large to be read back.
-/

namespace Settings.Duration

/-- The units in which durations are written. -/
inductive Measure where
  | day
  | hour
  | minute
  | second
  | millisecond
  | microsecond
  | nanosecond
deriving Repr, DecidableEq

namespace Measure

/-- The length of a unit in nanoseconds. -/
def nanos : Measure → Nat
  | day => 24 * 60 * 60 * 10 ^ 9
  | hour => 60 * 60 * 10 ^ 9
  | minute => 60 * 10 ^ 9
  | second => 10 ^ 9
  | millisecond => 10 ^ 6
  | microsecond => 10 ^ 3
  | nanosecond => 1

/-- The label of a unit. -/
def label : Measure → String
  | day => "d"
  | hour => "h"
  | minute => "min"
  | second => "s"
  | millisecond => "ms"
  | microsecond => "us"
  | nanosecond => "ns"

/-- The units from the largest to the smallest. -/
def all : List Measure := [day, hour, minute, second, millisecond, microsecond, nanosecond]

theorem mem_all (measure : Measure) : measure ∈ all := by
  cases measure <;> decide

/-- The units that the printer tries are these. -/
theorem labels_eq : labels = all.map fun measure => (measure.nanos, measure.label) := by
  decide

theorem mem_labels_iff {entry : Nat × String} :
    entry ∈ labels ↔ ∃ measure : Measure, (measure.nanos, measure.label) = entry := by
  rw [labels_eq, List.mem_map]
  constructor
  · rintro ⟨measure, -, same⟩
    exact ⟨measure, same⟩
  · rintro ⟨measure, same⟩
    exact ⟨measure, measure.mem_all, same⟩

theorem label_injective : Function.Injective label := by
  intro measure other same
  cases measure <;> cases other <;> first | rfl | exact absurd same (by decide)

/-- Labels are single words. -/
theorem notMem_label (measure : Measure) : ' ' ∉ measure.label.toList := by
  cases measure <;> decide

/-- The unit is the largest that divides the nanoseconds. -/
structure IsLargest (measure : Measure) (nanos : Nat) : Prop where
  divides : measure.nanos ∣ nanos
  largest : ∀ other : Measure, other.nanos ∣ nanos → other.nanos ≤ measure.nanos

/-- The printer finds the largest unit. -/
theorem exists_isLargest_of_isHighest {nanos : Nat} {entry : Nat × String}
    (highest : IsHighest nanos entry) :
    ∃ measure : Measure, measure.IsLargest nanos ∧ (measure.nanos, measure.label) = entry := by
  obtain ⟨measure, rfl⟩ := mem_labels_iff.1 highest.listed
  refine ⟨measure, ⟨highest.divides, fun other divides => ?_⟩, rfl⟩
  exact highest.largest _ (mem_labels_iff.2 ⟨other, rfl⟩) divides

end Measure

/-! ### Two forms of texts -/

/-- The text is a count and the label of its unit, or a count of seconds and one of
nanoseconds, and stands for that many nanoseconds. -/
inductive Written : List Char → Nat → Prop where
  | single (count : Nat) (measure : Measure) :
      Written (Text.ofNat count ++ ' ' :: measure.label.toList) (count * measure.nanos)
  | split (seconds nanos : Nat) :
      Written (Text.ofNat seconds ++ ' ' :: ("s ".toList ++ (Text.ofNat nanos ++ " ns".toList)))
        (seconds * 10 ^ 9 + nanos)

/-- A count ends where the space behind it stands. -/
theorem ofNat_append_space_inj {count other : Nat} {rest rest' : List Char}
    (same : Text.ofNat count ++ ' ' :: rest = Text.ofNat other ++ ' ' :: rest') :
    count = other ∧ rest = rest' := by
  have ends : ∀ {rest : List Char} (c : Char), (' ' :: rest).head? = some c →
      c.isDigit = false := by
    intro rest c first
    cases first
    rfl
  have digits := congrArg (List.takeWhile Char.isDigit) same
  have behind := congrArg (List.dropWhile Char.isDigit) same
  rw [Text.takeWhile_isDigit_append (fun c => Text.isDigit_of_mem_ofNat) ends,
    Text.takeWhile_isDigit_append (fun c => Text.isDigit_of_mem_ofNat) ends] at digits
  rw [Text.dropWhile_isDigit_append (fun c => Text.isDigit_of_mem_ofNat) ends,
    Text.dropWhile_isDigit_append (fun c => Text.isDigit_of_mem_ofNat) ends] at behind
  have values := congrArg Text.digitsValue digits
  rw [Text.digitsValue_ofNat, Text.digitsValue_ofNat] at values
  exact ⟨values, (List.cons.inj behind).2⟩

/-- A text stands for one number of nanoseconds at most. -/
theorem Written.unique {text : List Char} {nanos other : Nat} (written : Written text nanos)
    (written' : Written text other) : nanos = other := by
  have notSplit : ∀ {measure : Measure} {nanos : Nat},
      measure.label.toList ≠ "s ".toList ++ (Text.ofNat nanos ++ " ns".toList) := by
    intro measure nanos same
    apply measure.notMem_label
    rw [same]
    exact List.mem_append_left _ (by decide)
  generalize equal : text = text' at written'
  cases written with
  | single count measure =>
      cases written' with
      | single count' measure' =>
          obtain ⟨rfl, labels⟩ := ofNat_append_space_inj equal
          rw [Measure.label_injective (String.toList_inj.1 labels)]
      | split seconds nanos => exact absurd (ofNat_append_space_inj equal).2 notSplit
  | split seconds nanos =>
      cases written' with
      | single count measure => exact absurd (ofNat_append_space_inj equal).2.symm notSplit
      | split seconds' nanos' =>
          obtain ⟨rfl, behind⟩ := ofNat_append_space_inj equal
          rw [(ofNat_append_space_inj (List.append_cancel_left behind)).1]

/-! ### The text of a duration -/

section

variable {duration : Duration}

theorem toString_eq_ofList (count : Nat) : toString count = String.ofList (Text.ofNat count) :=
  Nat.repr_eq_ofList_toDigits

/-- A duration that is not zero is printed in the largest unit that divides it, and split if
its count in that unit exceeds 64 bits. -/
theorem exists_isLargest_text_eq (nonzero : duration.nanos ≠ 0) :
    ∃ measure : Measure, measure.IsLargest duration.nanos ∧ duration.text =
      if duration.nanos / measure.nanos < 2 ^ 64 then
        counted (duration.nanos / measure.nanos) measure.label
      else counted duration.seconds "s" ++ " " ++ counted duration.subsecondNanos "ns" := by
  obtain ⟨entry, highest, text⟩ := exists_text_eq nonzero
  obtain ⟨measure, largest, rfl⟩ := Measure.exists_isLargest_of_isHighest highest
  exact ⟨measure, largest, text⟩

/-- A duration that does not fit as one count is split at its whole seconds. -/
theorem toList_split (seconds nanos : Nat) :
    (counted seconds "s" ++ " " ++ counted nanos "ns").toList =
      Text.ofNat seconds ++ ' ' :: ("s ".toList ++ (Text.ofNat nanos ++ " ns".toList)) := by
  simp [counted]

theorem seconds_lt (duration : Duration) : duration.seconds < 2 ^ 64 :=
  Nat.div_lt_of_lt_mul (Nat.mul_comm _ _ ▸ duration.inRange)

theorem split_nanos (duration : Duration) :
    duration.seconds * 10 ^ 9 + duration.subsecondNanos = duration.nanos :=
  Nat.div_add_mod' ..

/-- The text of a duration is one of the two forms, and stands for its nanoseconds. -/
theorem written_text (duration : Duration) : Written duration.text.toList duration.nanos := by
  by_cases zero : duration.nanos = 0
  · rw [text, if_pos zero, zero]
    exact .single 0 .millisecond
  · obtain ⟨measure, largest, text⟩ := exists_isLargest_text_eq zero
    rw [text]
    split
    · have written := Written.single (duration.nanos / measure.nanos) measure
      rwa [Nat.div_mul_cancel largest.divides, ← toList_counted] at written
    · have written := Written.split duration.seconds duration.subsecondNanos
      rwa [duration.split_nanos, ← toList_split] at written

/-- No two durations have the same text. -/
theorem eq_of_text {other : Duration} (same : duration.text = other.text) : duration = other := by
  have nanos := (written_text duration).unique (same ▸ written_text other)
  cases duration
  cases other
  cases nanos
  rfl

/-- What the text of a duration is in the largest unit that divides it: the count and the label
if the count fits into 64 bits, and seconds and nanoseconds otherwise. -/
structure PrintedIn (duration : Duration) (measure : Measure) : Prop where
  isLargest : measure.IsLargest duration.nanos
  single : duration.nanos / measure.nanos < 2 ^ 64 →
    duration.text = toString (duration.nanos / measure.nanos) ++ " " ++ measure.label
  split : 2 ^ 64 ≤ duration.nanos / measure.nanos →
    ∃ seconds nanos : Nat, seconds < 2 ^ 64 ∧ nanos < 10 ^ 9 ∧
      seconds * 10 ^ 9 + nanos = duration.nanos ∧
      duration.text = toString seconds ++ " s " ++ toString nanos ++ " ns"

/-- A duration that is not zero is printed exactly, in the largest unit that divides it, and no
two durations are printed alike. -/
theorem printed_exactly :
    (∀ duration : Duration, 0 < duration.nanos → ∃ measure, duration.PrintedIn measure) ∧
      ∀ duration other : Duration, duration ≠ other → duration.text ≠ other.text := by
  refine ⟨fun duration positive => ?_, fun duration other differ same => differ (eq_of_text same)⟩
  obtain ⟨measure, largest, text⟩ := exists_isLargest_text_eq (Nat.ne_of_gt positive)
  refine ⟨measure, largest, fun fits => ?_, fun exceeds => ?_⟩
  · rw [text, if_pos fits, toString_eq_ofList]
    rfl
  · refine ⟨duration.seconds, duration.subsecondNanos, duration.seconds_lt,
      Nat.mod_lt _ (by decide), duration.split_nanos, ?_⟩
    rw [text, if_neg (Nat.not_lt.2 exceeds), toString_eq_ofList, toString_eq_ofList]
    simp [counted, String.append_assoc]

/-- The longest duration ends in nanoseconds and has too many of them for one count. -/
theorem printedIn_longest :
    ∃ measure, PrintedIn ⟨18446744073709551615999999999, by decide⟩ measure ∧
      2 ^ 64 ≤ 18446744073709551615999999999 / measure.nanos ∧
      text ⟨18446744073709551615999999999, by decide⟩ = "18446744073709551615 s 999999999 ns" := by
  obtain ⟨measure, printed⟩ :=
    printed_exactly.1 ⟨18446744073709551615999999999, by decide⟩ (by decide)
  have divides := printed.isLargest.divides
  refine ⟨measure, printed, ?_, by decide⟩
  cases measure <;> first | decide | exact absurd divides (by decide)

end

end Settings.Duration
