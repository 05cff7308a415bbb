/-!
Secrets: texts that are shown as a mask.
-/

namespace Settings

/-- A text that is never shown. -/
structure Secret where
  literal : String
deriving DecidableEq

/-- What is shown in place of a secret. -/
def Secret.mask : String := "******"

/-- The text shown for a secret in a listing for developers. -/
def Secret.debugText (_secret : Secret) : String := "Password(\"" ++ Secret.mask ++ "\")"

end Settings
