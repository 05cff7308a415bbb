import Settings.ConversionError
import Settings.Literal.Duration
import Settings.Literal.Integer
import Settings.Literal.MemorySize
import Settings.Literal.Number
import Settings.Rendering

/-!
Coercion of values to types.

A value that already has the requested type is returned unchanged, integers and
floating-point numbers are widened and narrowed directly, and everything else goes
through the canonical text of the value.  Lists are coerced element by element;
a list of lists has no conversion.  Errors about secret types, or about input that
contains a secret, quote none of the input.
-/

namespace Settings

/-- A literal reader applied to the text without the white space at its ends.  An error
about the grammar quotes the whole text, one about the range the trimmed text. -/
def readAs {α : Type} (target : Target) (read : List Char → Except ReadFailure α)
    (text : String) : Outcome ConversionError α :=
  let trimmed := Text.trim text.toList
  (read trimmed).mapError fun
    | .unreadable reason => .failed (.unreadable text target reason)
    | .outOfRange => .failed (.outOfRange (String.ofList trimmed) target)
    | .aborted cause => .aborted cause

/-- The two truth values, spelled in any case. -/
def Literal.readBool (text : List Char) : Except ReadFailure Bool :=
  let folded := Text.upper text
  if folded = "TRUE".toList then .ok true
  else if folded = "FALSE".toList then .ok false
  else .error (.unreadable .notBoolean)

/-- The name of a member, spelled in any case. -/
def Literal.readMember (set : EnumSet) (text : List Char) : Except ReadFailure EnumMember :=
  match set.lookup (String.ofList text) with
  | some member => .ok member
  | none => .error (.unreadable (.notMember set.members))

/-- The elements of a text between delimiters. -/
def splitText (delimiter : Char) (text : String) : Except ConversionError (List String) :=
  match Text.split delimiter text.toList with
  | .ok elements => .ok (elements.map String.ofList)
  | .error fault => .error (.malformedEntry text (.quoting fault))

/-- The key and the value of an entry of a map. -/
def readEntry (entry : String) : Except ConversionError (String × String) := do
  match ← splitText entryDelimiter entry with
  | [key, value] => return (key, value)
  | parts => throw (.malformedEntry entry (.notPair parts.length))

/-- The map that a text lists; of entries with the same key the last one counts. -/
def readMap (text : String) : Except ConversionError (Table String) := do
  return Table.ofList (← (← splitText elementDelimiter text).mapM readEntry)

namespace Value

/-- A 32-bit integer. -/
def toInt : Value → Outcome ConversionError Int32
  | .int value => .ok value
  | .long value =>
    if -0x80000000 ≤ value.toInt ∧ value.toInt < 0x80000000 then .ok (Int32.ofInt value.toInt)
    else .error (.failed (.outOfRange (String.ofList (Text.ofInt value.toInt)) .int))
  | value => readAs .int Literal.readInt value.render

/-- A 64-bit integer. -/
def toLong : Value → Outcome ConversionError Int64
  | .long value => .ok value
  | .int value => .ok (Int64.ofInt value.toInt)
  | value => readAs .long Literal.readLong value.render

/-- A truth value. -/
def toBool : Value → Outcome ConversionError Bool
  | .bool value => .ok value
  | value => readAs .bool Literal.readBool value.render

/-- A number in single precision. -/
def toFloat : Value → Outcome ConversionError (Binary .single)
  | .float value => .ok value
  | .double value =>
    if value.fitsIn .single then .ok (value.convert .single)
    else .error (.failed (.outOfRange value.text .float))
  | value => readAs .float Literal.readBinary value.render

/-- A number in double precision. -/
def toDouble : Value → Outcome ConversionError (Binary .double)
  | .double value => .ok value
  | .float value => .ok (value.convert .double)
  | value => readAs .double Literal.readBinary value.render

/-- A secret. -/
def toSecret : Value → Secret
  | .secret value => value
  | value => ⟨value.render⟩

/-- A member of a set.  A member of another set is looked up by its name. -/
def toMember (set : EnumSet) : Value → Outcome ConversionError EnumMember
  | .member value =>
    if value.set = set then .ok value
    else readAs (.member set.name) (Literal.readMember set) value.name
  | value => readAs (.member set.name) (Literal.readMember set) value.render

/-- A duration. -/
def toDuration : Value → Outcome ConversionError Duration
  | .duration value => .ok value
  | value => readAs .duration Literal.readDuration value.render

/-- A memory size. -/
def toMemorySize : Value → Outcome ConversionError MemorySize
  | .memorySize value => .ok value
  | value => readAs .memorySize Literal.readMemorySize value.render

/-- A map from texts to texts. -/
def toMap : Value → Outcome ConversionError (Table String)
  | .map entries => .ok entries
  | value => Outcome.ofExcept (readMap value.render)

/-- The elements of a list that are still to be coerced. -/
def toElements : Value → Outcome ConversionError (List Value)
  | .list elements => .ok elements
  | value =>
    Outcome.ofExcept ((splitText elementDelimiter value.render).map (List.map Value.text))

end Value

/-- The error of an outcome without the input it quotes, if `hide` holds. -/
def Outcome.maskedIf {α : Type} (hide : Bool) (outcome : Outcome ConversionError α) :
    Outcome ConversionError α :=
  if hide then outcome.mapError (Stop.map ConversionError.masked) else outcome

/-- The value under a type. -/
def coerce : Tag → Value → Outcome ConversionError Value
  | tag, raw =>
    Outcome.maskedIf (tag.isSensitive || raw.containsSecret) <|
      match tag with
      | .int => raw.toInt.map .int
      | .long => raw.toLong.map .long
      | .bool => raw.toBool.map .bool
      | .float => raw.toFloat.map .float
      | .double => raw.toDouble.map .double
      | .text => .ok (.text raw.render)
      | .secret => .ok (.secret raw.toSecret)
      | .member set => (raw.toMember set).map .member
      | .duration => raw.toDuration.map .duration
      | .memorySize => raw.toMemorySize.map .memorySize
      | .map => raw.toMap.map .map
      | .list element =>
        if element.isList then .error (.failed (.unsupported (Tag.list element).name))
        else do
          return .list (← (← raw.toElements).mapM fun item => coerce element item)

end Settings
