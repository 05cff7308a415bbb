import Settings.Command.Basic
import Settings.Command.Plugins
import Settings.Command.Request
import Settings.Environment.File
import Settings.Loading

/-!
A run of the program: from its arguments, its variables and the files it finds to
what it writes and how it exits.
-/

namespace Settings.Command

/-- How a run ends. -/
inductive Exit where
  /-- With a text on the standard output. -/
  | success (output : String)
  /-- With the report of an error. -/
  | failure (error : CommandError)
  /-- With arguments that are not understood. -/
  | misuse
  | aborted (cause : Abort)
deriving Repr, DecidableEq

/-- The status that a run leaves. -/
def Exit.status : Exit → UInt8
  | .success _ => 0
  | .failure _ => 1
  | .misuse => 2
  | .aborted _ => 101

/-- The text that names the program and its version. -/
def versionText : String := "confval 0.1.0\n"

/-- The text that answers a request. -/
def answer (files : FileSystem) (environment : Environment.Variables) :
    Request → Outcome CommandError String
  | .version => .ok versionText
  | .get file key tag reveal => do
    let store ← Outcome.ofExcept (load files file environment)
    return (← get store key tag reveal) ++ "\n"
  | .render file schema => do
    let store ← Outcome.ofExcept (load files file environment)
    renderAll store schema
  | .plugins directory extension => Outcome.ofExcept (plugins files directory extension)

/-- A run with arguments and variables, to which the file of variables in the working directory
adds others. -/
def run (files : FileSystem) (environment : Environment.Variables)
    (arguments : List String) : Exit :=
  match Request.read? Plugin.defaultExtension arguments with
  | none => .misuse
  | some request =>
    match answer files (Environment.withFile files environment) request with
    | .ok output => .success output
    | .error (.failed error) => .failure error
    | .error (.aborted cause) => .aborted cause

end Settings.Command
