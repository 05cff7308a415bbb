import Settings.Literal.Reading
import Settings.Word

/-!
Integer literals: an optional sign and decimal digits.

Digits are taken from left to right, and a number that has left its range is
reported at once, before the characters after it are looked at.
-/

namespace Settings.Literal

/-- The number made of the digits so far and the following ones, as long as it stays
within `bound`. -/
def readMagnitude (bound : Nat) : Nat → List Char → Except ReadFailure Nat
  | value, [] => .ok value
  | value, c :: rest =>
    if c.isDigit then
      let next := value * 10 + Text.digitValue c
      if next ≤ bound then readMagnitude bound next rest else .error .outOfRange
    else .error (.unreadable .invalidDigit)

/-- A non-empty run of digits. -/
def readDigits (bound : Nat) (text : List Char) : Except ReadFailure Nat :=
  if text.isEmpty then .error (.unreadable .invalidDigit) else readMagnitude bound 0 text

/-- An integer not below `-limit` and below `limit`. -/
def readInteger (limit : Nat) : List Char → Except ReadFailure Int
  | [] => .error (.unreadable .emptyInteger)
  | '-' :: digits => do return -(← readDigits limit digits : Nat)
  | '+' :: digits => do return (← readDigits (limit - 1) digits : Nat)
  | digits => do return (← readDigits (limit - 1) digits : Nat)

/-- A 32-bit integer. -/
def readInt (text : List Char) : Except ReadFailure Int32 :=
  (readInteger 0x80000000 text).map Int32.ofInt

/-- A 64-bit integer. -/
def readLong (text : List Char) : Except ReadFailure Int64 :=
  (readInteger signedLimit text).map Int64.ofInt

end Settings.Literal
