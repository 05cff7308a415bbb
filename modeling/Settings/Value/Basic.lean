import Settings.Binary.Shortest
import Settings.Table
import Settings.Text.Listing
import Settings.Value.Duration
import Settings.Value.MemorySize
import Settings.Value.Secret
import Settings.Value.Tag

/-!
Values of settings, either raw input or the result of a coercion.
-/

namespace Settings

/-- A value.  Lists may be nested and may mix types; only coercion makes them uniform. -/
inductive Value where
  | int (value : Int32)
  | long (value : Int64)
  | bool (value : Bool)
  | float (value : Binary .single)
  | double (value : Binary .double)
  | text (value : String)
  | secret (value : Secret)
  | member (value : EnumMember)
  | duration (value : Duration)
  | memorySize (value : MemorySize)
  | map (entries : Table String)
  | list (elements : List Value)

namespace Value

/-- The short name of the kind of a value. -/
def kind : Value → String
  | .int _ => "int"
  | .long _ => "long"
  | .bool _ => "bool"
  | .float _ => "float"
  | .double _ => "double"
  | .text _ => "string"
  | .secret _ => "password"
  | .member _ => "enum"
  | .duration _ => "duration"
  | .memorySize _ => "memory"
  | .map _ => "map"
  | .list _ => "list"

/-- The content of a text value. -/
def asText? : Value → Option String
  | .text value => some value
  | _ => none

mutual

/-- The value is a secret or a list that holds one at some depth. -/
def containsSecret : Value → Bool
  | .secret _ => true
  | .list elements => anySecret elements
  | _ => false

/-- One of the values contains a secret. -/
def anySecret : List Value → Bool
  | [] => false
  | value :: rest => containsSecret value || anySecret rest

end

mutual

/-- Equality of values, with numerical equality of floating-point numbers: a NaN is
unequal to itself and the two zeros are equal. -/
def same : Value → Value → Bool
  | .int left, .int right => left == right
  | .long left, .long right => left == right
  | .bool left, .bool right => left == right
  | .float left, .float right => left.same right
  | .double left, .double right => left.same right
  | .text left, .text right => left == right
  | .secret left, .secret right => left == right
  | .member left, .member right => left == right
  | .duration left, .duration right => left == right
  | .memorySize left, .memorySize right => left == right
  | .map left, .map right => left == right
  | .list left, .list right => sameElements left right
  | _, _ => false

/-- Element-wise equality of lists of values. -/
def sameElements : List Value → List Value → Bool
  | [], [] => true
  | left :: lefts, right :: rights => same left right && sameElements lefts rights
  | _, _ => false

end

/-- The text of the scalar kinds, which is the same in every form of output. -/
def boolText (value : Bool) : String := if value then "true" else "false"

mutual

/-- The form for diagnostics: secrets are masked, lists and maps are bracketed. -/
def display : Value → String
  | .int value => String.ofList (Text.ofInt value.toInt)
  | .long value => String.ofList (Text.ofInt value.toInt)
  | .bool value => boolText value
  | .float value => value.text
  | .double value => value.text
  | .text value => value
  | .secret _ => Secret.mask
  | .member value => value.name
  | .duration value => value.text
  | .memorySize value => value.text
  | .map entries =>
    Text.braced (", ".intercalate (entries.entries.map fun entry => entry.1 ++ "=" ++ entry.2))
  | .list elements => "[" ++ ", ".intercalate (displayAll elements) ++ "]"

/-- The diagnostic forms of the elements of a list. -/
def displayAll : List Value → List String
  | [] => []
  | value :: rest => display value :: displayAll rest

end

end Value

end Settings
