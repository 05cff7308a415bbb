import Settings.Literal.Reading
import Settings.Text.Split
import Settings.Value.Secret
import Settings.Value.Tag

/-!
Errors of conversions between values.

An error keeps its causes apart from its wording, which `ConversionError.message`
gives.  The part that quotes input is a field of its own, so that it can be
masked.
-/

namespace Settings

/-- The type that a literal was to be read as. -/
inductive Target where
  | int
  | long
  | bool
  | float
  | double
  | member (set : String)
  | duration
  | memorySize
deriving Repr, DecidableEq

/-- The name of a target in messages. -/
def Target.name : Target → String
  | .int => "int"
  | .long => "long"
  | .bool => "bool"
  | .float => "float"
  | .double => "double"
  | .member set => "enum " ++ set
  | .duration => "duration"
  | .memorySize => "memory size"

/-- Why an entry of a list or a map is malformed. -/
inductive EntryFault where
  | quoting (fault : Text.SplitFault)
  /-- An item of a map has this many parts. -/
  | notPair (parts : Nat)
deriving Repr, DecidableEq

/-- The wording of a fault in an entry. -/
def EntryFault.message : EntryFault → String
  | .quoting (.unclosed position) =>
    "quoting starting at position " ++ String.ofList (Text.ofNat position) ++ " was not closed"
  | .quoting (.textAfterQuotes position) =>
    "illegal quoting at position " ++ String.ofList (Text.ofNat position)
  | .notPair parts =>
    "map item is not a key-value pair (expected 2 parts separated by ':', found " ++
      String.ofList (Text.ofNat parts) ++ ")"

/-- Why a value has no form under a type. -/
inductive ConversionError where
  /-- The text is not a literal of the target. -/
  | unreadable (value : String) (target : Target) (reason : Reason)
  /-- The literal is well formed and its value does not fit the target. -/
  | outOfRange (value : String) (target : Target)
  /-- A list or a map could not be split into its parts. -/
  | malformedEntry (entry : String) (fault : EntryFault)
  /-- There is no such type, or no conversion to it. -/
  | unsupported (tag : String)
deriving Repr, DecidableEq

/-- The kinds of conversion errors. -/
inductive ConversionError.Kind where
  | unreadable
  | outOfRange
  | malformedEntry
  | unsupported
deriving Repr, DecidableEq

namespace ConversionError

/-- The kind of an error. -/
def kind : ConversionError → Kind
  | .unreadable .. => .unreadable
  | .outOfRange .. => .outOfRange
  | .malformedEntry .. => .malformedEntry
  | .unsupported .. => .unsupported

/-- The wording of an error. -/
def message : ConversionError → String
  | .unreadable value target reason =>
    "Could not parse value '" ++ value ++ "' as " ++ target.name ++ ": " ++ reason.message
  | .outOfRange value target =>
    "Configuration value " ++ value ++ " overflows/underflows the " ++ target.name ++ " type"
  | .malformedEntry entry fault => "Malformed entry '" ++ entry ++ "': " ++ fault.message
  | .unsupported tag => "Unsupported type: " ++ tag

/-- The error with the quoted input replaced by the mask.  The reason is kept. -/
def masked : ConversionError → ConversionError
  | .unreadable _ target reason => .unreadable Secret.mask target reason
  | .outOfRange _ target => .outOfRange Secret.mask target
  | .malformedEntry _ fault => .malformedEntry Secret.mask fault
  | .unsupported tag => .unsupported tag

end ConversionError

end Settings
