import Settings.ConversionError
import Settings.Files.FileSystem
import Settings.Properties.Basic

/-!
Errors of stores of settings, and the chains of causes in which they are reported.
-/

namespace Settings

/-- Why settings cannot be loaded, read or written. -/
inductive StoreError where
  /-- The text under a key has no value of the requested type. -/
  | conversion (key : String) (cause : ConversionError)
  | fileNotFound (path : String)
  | file (path : String) (cause : Files.Fault)
  | malformed (fault : Properties.SyntaxFault)
  /-- A structured document could not be understood. -/
  | load
deriving Repr, DecidableEq

namespace StoreError

/-- The wording of an error.  That of `load` ends where the description by the reader of
the document would follow. -/
def message : StoreError → String
  | .conversion key cause => "Invalid configuration value for " ++ key ++ ": " ++ cause.message
  | .fileNotFound path => "Configuration file not found: " ++ path
  | .file path cause => "Configuration I/O error at " ++ path ++ ": " ++ cause.message
  | .malformed fault => fault.message
  | .load => "Configuration load error:"

/-- The wording of an error and of the causes under it. -/
def chain (error : StoreError) : List String :=
  match error with
  | .conversion _ cause => [error.message, cause.message]
  | .file _ cause => [error.message, cause.message]
  | _ => [error.message]

end StoreError

end Settings
