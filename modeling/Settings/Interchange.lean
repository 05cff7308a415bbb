import Settings.Binary.Rounding
import Settings.Coercion
import Settings.Json
import Settings.Tree

/-!
Memory sizes and texts in structured documents.

A memory size is written as its text and read from a text or from a count of
bytes.  A document has no integers but those of 64 bits; any other one is a
floating-point number in it.
-/

namespace Settings

/-- Why a node of a tree is not a memory size. -/
inductive SizeFault where
  | literal (stop : Stop ConversionError)
  | negative
  /-- A node of another type, named as in messages. -/
  | wrongType (found : String)
deriving Repr, DecidableEq

/-- The wording of a fault. -/
def SizeFault.message : SizeFault → String
  | .literal (.failed error) => error.message
  | .literal (.aborted cause) => cause.message
  | .negative => "memory size cannot be negative"
  | .wrongType found =>
    "invalid type: " ++ found ++
      ", expected a byte count or a memory size literal such as \"64 mb\""

/-- The text of a number with a point in it, if it is finite. -/
def Binary.textWithPoint {format : Format} (value : Binary format) : String :=
  match value with
  | .finite .. => if value.text.toList.contains '.' then value.text else value.text ++ ".0"
  | value => value.text

/-- The fault of a floating-point number. -/
def SizeFault.floatingPoint (value : Binary .double) : SizeFault :=
  .wrongType ("floating point `" ++ value.textWithPoint ++ "`")

/-- The memory size that a node stands for. -/
def Tree.memorySize : Tree → Except SizeFault MemorySize
  | .text value =>
    (readAs .memorySize Literal.readMemorySize value).mapError .literal
  | .integer value =>
    if !isWord value then
      .error (.floatingPoint (Binary.ofDecimal (decide (value < 0)) ⟨value.natAbs, 0⟩))
    else if value < 0 then .error .negative
    else .ok (MemorySize.wrap value.toNat)
  | .real value => .error (.floatingPoint value)
  | .bool value => .error (.wrongType ("boolean `" ++ Value.boolText value ++ "`"))
  | .null => .error (.wrongType "null")
  | .list _ => .error (.wrongType "sequence")
  | .mapping _ => .error (.wrongType "map")

/-- The node that stands for a memory size. -/
def MemorySize.tree (size : MemorySize) : Tree := .text size.text

/-- The JSON text of a memory size. -/
def MemorySize.json (size : MemorySize) : String := Json.ofText size.text

end Settings
