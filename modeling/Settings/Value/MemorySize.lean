import Settings.Text.Digits
import Settings.Word

/-!
Byte counts of 64 bits and their text in the largest unit that divides them.
-/

namespace Settings

/-- A number of bytes. -/
structure MemorySize where
  bytes : Nat
  inRange : bytes < wordLimit
deriving Repr, DecidableEq

namespace MemorySize

/-- A unit of memory: its size, the spellings that are read, and the one written. -/
structure Unit where
  bytes : Nat
  spellings : List String
  label : String
deriving Repr, DecidableEq

/-- The units from the largest to the single byte. -/
def units : List Unit := [
  ⟨1024 * 1024 * 1024 * 1024, ["t", "tb", "tebibytes"], "tb"⟩,
  ⟨1024 * 1024 * 1024, ["g", "gb", "gibibytes"], "gb"⟩,
  ⟨1024 * 1024, ["m", "mb", "mebibytes"], "mb"⟩,
  ⟨1024, ["k", "kb", "kibibytes"], "kb"⟩,
  ⟨1, ["b", "bytes"], "bytes"⟩]

/-- A byte count if it is in range. -/
def ofBytes? (bytes : Nat) : Option MemorySize :=
  if h : bytes < wordLimit then some ⟨bytes, h⟩ else none

/-- The low 64 bits of a byte count. -/
def wrap (bytes : Nat) : MemorySize := ⟨bytes % wordLimit, Nat.mod_lt _ (by decide)⟩

/-- A count of kibibytes; bits shifted out of the range are lost. -/
def ofKibibytes (count : Nat) : MemorySize := wrap (count * 1024)

/-- A count of mebibytes; bits shifted out of the range are lost. -/
def ofMebibytes (count : Nat) : MemorySize := wrap (count * (1024 * 1024))

/-- Whole kibibytes. -/
def kibibytes (size : MemorySize) : Nat := size.bytes / 1024

/-- Whole mebibytes. -/
def mebibytes (size : MemorySize) : Nat := size.bytes / (1024 * 1024)

/-- The count in the largest unit that divides it, zero in bytes. -/
def text (size : MemorySize) : String :=
  if size.bytes = 0 then "0 bytes"
  else
    match units.find? (fun unit => size.bytes % unit.bytes == 0) with
    | some unit => String.ofList (Text.ofNat (size.bytes / unit.bytes)) ++ " " ++ unit.label
    | none => String.ofList (Text.ofNat size.bytes) ++ " bytes"

end MemorySize

end Settings
