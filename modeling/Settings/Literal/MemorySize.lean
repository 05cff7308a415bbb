import Settings.Literal.Reading
import Settings.Text.Blank
import Settings.Text.Case
import Settings.Value.MemorySize

/-!
Memory size literals: a decimal number and an optional unit in any case, with any
white space between them.
-/

namespace Settings.Literal

/-- The size in bytes of a unit in lower case; no unit means bytes. -/
def memoryUnit? (unit : String) : Option Nat :=
  if unit.isEmpty then some 1
  else (MemorySize.units.find? fun entry => entry.spellings.contains unit).map (·.bytes)

/-- A memory size. -/
def readMemorySize (text : List Char) : Except ReadFailure MemorySize :=
  let digits := text.takeWhile Char.isDigit
  let unit := String.ofList (Text.lower (Text.trim (text.dropWhile Char.isDigit)))
  let count := Text.digitsValue digits
  if digits.isEmpty then .error (.unreadable .noLeadingNumber)
  else if wordLimit ≤ count then .error (.unreadable .numberTooLong)
  else
    match memoryUnit? unit with
    | none => .error (.unreadable (.unknownMemoryUnit unit))
    | some bytes =>
      match MemorySize.ofBytes? (count * bytes) with
      | none => .error .outOfRange
      | some size => .ok size

end Settings.Literal
