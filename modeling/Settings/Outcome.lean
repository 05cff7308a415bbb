/-!
How a computation of the library ends.

Most failures are values that a caller can inspect and report.  One is not: a
sum of durations that leaves the representable range in its last carry aborts
the whole computation, whatever was to be done with its result.  `Outcome`
keeps the two apart.
-/

namespace Settings

/-- A cause for which a computation is abandoned. -/
inductive Abort where
  /-- A full second was to be carried into a count of seconds that is already at its
  greatest value. -/
  | durationCarry
deriving Repr, DecidableEq

/-- The text that an abandoned computation leaves. -/
def Abort.message : Abort → String
  | .durationCarry => "overflow in Duration::new"

/-- An end without a result: an error to report, or an abandoned computation. -/
inductive Stop (ε : Type) where
  | failed (error : ε)
  | aborted (cause : Abort)
deriving Repr, DecidableEq

/-- The same end with its error seen in a wider context. -/
def Stop.map {ε ε' : Type} (f : ε → ε') : Stop ε → Stop ε'
  | .failed error => .failed (f error)
  | .aborted cause => .aborted cause

/-- A result, an error or an abandoned computation. -/
abbrev Outcome (ε α : Type) := Except (Stop ε) α

/-- The outcome of a computation that cannot be abandoned. -/
def Outcome.ofExcept {ε α : Type} (result : Except ε α) : Outcome ε α :=
  result.mapError .failed

end Settings
