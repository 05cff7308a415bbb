import Settings.Outcome
import Settings.Text.Digits

/-!
What every reader of literals has in common.

A reader sees a text without the white space at its ends.  It gives a value, or
says that the text is not a literal of its grammar and why, or that the literal
denotes a value out of range.
-/

namespace Settings

/-- Why the text of a duration is not a literal.  Offsets count the bytes of the text in
lower case. -/
inductive DurationFault where
  | numberExpected (offset : Nat)
  | invalidCharacter (offset : Nat)
  | unknownUnit (unit : List Char)
  | unitNeeded (count : Nat)
  /-- A count leaves 64 bits, or a fraction is not a whole number of the smallest step. -/
  | unrepresentable
deriving Repr, DecidableEq

/-- Why a text is not a literal of a type. -/
inductive Reason where
  | emptyInteger
  | invalidDigit
  | notBoolean
  | emptyFloat
  | invalidFloat
  | notMember (members : List String)
  | emptyDuration
  | duration (fault : DurationFault)
  | noLeadingNumber
  | numberTooLong
  | unknownMemoryUnit (unit : String)
deriving Repr, DecidableEq

/-- How a reader ends without a value. -/
inductive ReadFailure where
  | unreadable (reason : Reason)
  | outOfRange
  | aborted (cause : Abort)
deriving Repr, DecidableEq

/-- The wording of a fault in a duration. -/
def DurationFault.message : DurationFault → String
  | .numberExpected offset => "expected number at " ++ String.ofList (Text.ofNat offset)
  | .invalidCharacter offset => "invalid character at " ++ String.ofList (Text.ofNat offset)
  | .unknownUnit unit =>
    "unknown time unit \"" ++ String.ofList unit ++
      "\", supported units: ns, us/µs, ms, sec, min, hours, days, weeks, months, years" ++
      " (and few variations)"
  | .unitNeeded count =>
    let number := String.ofList (Text.ofNat count)
    "time unit needed, for example " ++ number ++ "sec or " ++ number ++ "ms"
  | .unrepresentable =>
    "number is too large or cannot be represented without a lack of precision" ++
      " (values below 1ns are not supported)"

/-- The wording of a reason. -/
def Reason.message : Reason → String
  | .emptyInteger => "cannot parse integer from empty string"
  | .invalidDigit => "invalid digit found in string"
  | .notBoolean => "expected either TRUE or FALSE (case insensitive)"
  | .emptyFloat => "cannot parse float from empty string"
  | .invalidFloat => "invalid float literal"
  | .notMember members => "expected one of: [" ++ ", ".intercalate members ++ "]"
  | .emptyDuration => "value is empty"
  | .duration fault => fault.message
  | .noLeadingNumber => "text does not start with a number"
  | .numberTooLong => "number does not fit into 64 bits"
  | .unknownMemoryUnit unit =>
    "unknown unit '" ++ unit ++ "', expected one of: b, k, m, g, t (optionally followed by b)"

end Settings
