import Settings.Value.Basic

/-!
Types of the host language that can be stored as settings.
-/

namespace Settings

/-- A type whose elements can be turned into values under one tag and back. -/
class Typed (α : Type) where
  tag : Tag
  toValue : α → Value
  ofValue? : Value → Option α

namespace Typed

instance : Typed Int32 where
  tag := .int
  toValue := .int
  ofValue?
    | .int value => some value
    | _ => none

instance : Typed Int64 where
  tag := .long
  toValue := .long
  ofValue?
    | .long value => some value
    | _ => none

instance : Typed Bool where
  tag := .bool
  toValue := .bool
  ofValue?
    | .bool value => some value
    | _ => none

instance : Typed (Binary .single) where
  tag := .float
  toValue := .float
  ofValue?
    | .float value => some value
    | _ => none

instance : Typed (Binary .double) where
  tag := .double
  toValue := .double
  ofValue?
    | .double value => some value
    | _ => none

instance : Typed String where
  tag := .text
  toValue := .text
  ofValue?
    | .text value => some value
    | _ => none

instance : Typed Secret where
  tag := .secret
  toValue := .secret
  ofValue?
    | .secret value => some value
    | _ => none

instance : Typed Duration where
  tag := .duration
  toValue := .duration
  ofValue?
    | .duration value => some value
    | _ => none

instance : Typed MemorySize where
  tag := .memorySize
  toValue := .memorySize
  ofValue?
    | .memorySize value => some value
    | _ => none

instance : Typed (Table String) where
  tag := .map
  toValue := .map
  ofValue?
    | .map entries => some entries
    | _ => none

instance {α : Type} [Typed α] : Typed (List α) where
  tag := .list (Typed.tag α)
  toValue elements := .list (elements.map Typed.toValue)
  ofValue?
    | .list elements => elements.mapM Typed.ofValue?
    | _ => none

end Typed

end Settings
