import Settings.Plugin
import Settings.Store.Error

/-!
Errors of commands, and the report of an error with its chain of causes.
-/

namespace Settings

/-- Why a command fails. -/
inductive CommandError where
  | invalidTag (tag : String) (cause : ConversionError)
  | schemaForm (entry : String)
  | invalidSchemaTag (entry : String) (cause : ConversionError)
  | keyNotSet (key : String)
  | store (cause : StoreError)
  | loadDocument (path : String) (cause : StoreError)
  | loadProperties (path : String) (cause : StoreError)
  | plugins (cause : PluginError)
deriving Repr, DecidableEq

namespace CommandError

/-- The wording of an error and of the causes under it, outermost first. -/
def chain : CommandError → List String
  | .invalidTag tag cause => ["Invalid type tag '" ++ tag ++ "'", cause.message]
  | .schemaForm entry => ["Schema entry '" ++ entry ++ "' is not of the form KEY=TAG"]
  | .invalidSchemaTag entry cause =>
    ["Invalid type tag in schema entry '" ++ entry ++ "'", cause.message]
  | .keyNotSet key => ["Key '" ++ key ++ "' is not set"]
  | .store cause => cause.chain
  | .loadDocument path cause => ("Failed to load configuration from " ++ path) :: cause.chain
  | .loadProperties path cause => ("Failed to load properties from " ++ path) :: cause.chain
  | .plugins cause => "Plugin discovery failed" :: cause.chain

/-- The error ends in a description by the reader of a document, which is left out. -/
def isOpen : CommandError → Bool
  | .store .load => true
  | .loadDocument _ .load => true
  | .loadProperties _ .load => true
  | _ => false

/-- A text whose lines after the first are indented. -/
def indentLines (indent : String) (text : String) : String :=
  String.ofList (text.toList.flatMap fun c => if c = '\n' then '\n' :: indent.toList else [c])

/-- The numbered lines of several causes. -/
def numberedCauses (number : Nat) : List String → List String
  | [] => []
  | cause :: rest =>
    let label := String.ofList (Text.ofNat number)
    ("".pushn ' ' (5 - label.length) ++ label ++ ": " ++ indentLines "       " cause) ::
      numberedCauses (number + 1) rest

/-- The lines of the causes under an error. -/
def causeLines : List String → List String
  | [] => []
  | [cause] => ["    " ++ indentLines "    " cause]
  | causes => numberedCauses 0 causes

/-- The report of an error: its wording, and its causes on indented lines. -/
def report (error : CommandError) : String :=
  let head := "Error: " ++ error.chain.headD ""
  let causes := causeLines error.chain.tail
  let body := if causes.isEmpty then head else head ++ "\n\nCaused by:\n" ++ "\n".intercalate causes
  if error.isOpen then body else body ++ "\n"

end CommandError

end Settings
