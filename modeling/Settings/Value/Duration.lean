import Settings.Text.Digits
import Settings.Word

/-!
Durations: counts of nanoseconds whose seconds have 64 bits, and their text in
the largest unit that divides them.
-/

namespace Settings

/-- Nanoseconds in a second. -/
def nanosPerSecond : Nat := 1000000000

/-- A length of time in nanoseconds, of which the whole seconds have 64 bits. -/
structure Duration where
  nanos : Nat
  inRange : nanos < wordLimit * nanosPerSecond
deriving Repr, DecidableEq

namespace Duration

/-- The duration of a count of nanoseconds, if it is in range. -/
def ofNanos? (nanos : Nat) : Option Duration :=
  if h : nanos < wordLimit * nanosPerSecond then some ⟨nanos, h⟩ else none

/-- Whole seconds. -/
def seconds (duration : Duration) : Nat := duration.nanos / nanosPerSecond

/-- Nanoseconds beyond the whole seconds. -/
def subsecondNanos (duration : Duration) : Nat := duration.nanos % nanosPerSecond

/-- The units in which durations are written, with their length in nanoseconds. -/
def labels : List (Nat × String) := [
  (24 * 60 * 60 * nanosPerSecond, "d"),
  (60 * 60 * nanosPerSecond, "h"),
  (60 * nanosPerSecond, "min"),
  (nanosPerSecond, "s"),
  (1000000, "ms"),
  (1000, "us"),
  (1, "ns")]

/-- The text of a count and a label. -/
def counted (count : Nat) (label : String) : String :=
  String.ofList (Text.ofNat count) ++ " " ++ label

/-- The count in the largest unit that divides the duration.  A count beyond 64 bits,
which only nanoseconds and their small multiples reach, is split into seconds and
nanoseconds. -/
def text (duration : Duration) : String :=
  if duration.nanos = 0 then "0 ms"
  else
    let (length, label) :=
      (labels.find? fun unit => duration.nanos % unit.1 == 0).getD (1, "ns")
    let count := duration.nanos / length
    if count < wordLimit then counted count label
    else counted duration.seconds "s" ++ " " ++ counted duration.subsecondNanos "ns"

end Duration

end Settings
