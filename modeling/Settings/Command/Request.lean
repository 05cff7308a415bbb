/-!
Requests: what the arguments of the command line ask for.

An option is given by its name after two dashes or by its letter after one.  Its
value is the next argument, unless it is attached to the option, with or without
an equals sign.
-/

namespace Settings.Command

/-- What the program is asked to do. -/
inductive Request where
  | version
  /-- Show the value of one setting under a type. -/
  | get (file key tag : String) (reveal : Bool)
  /-- Show all settings, some of them under declared types. -/
  | render (file : String) (schema : List String)
  /-- List the plugins under a directory. -/
  | plugins (directory extension : String)
deriving Repr, DecidableEq

/-- What an option takes. -/
inductive OptionKind where
  | nothing
  | text
  /-- A text that is not empty. -/
  | path
deriving Repr, DecidableEq

/-- An option of a command. -/
structure OptionForm where
  name : String
  letter : Option Char
  kind : OptionKind
  /-- The option may be given more than once. -/
  repeats : Bool
deriving Repr, DecidableEq

/-- Names of options that were given, with their values. -/
abbrev Given := List (String × String)

/-- An argument that stands for an option, and the value attached to it. -/
structure OptionUse where
  form : OptionForm
  attached : Option String
deriving Repr, DecidableEq

/-- The option that an argument stands for. -/
def optionUse? (forms : List OptionForm) (argument : String) : Option OptionUse :=
  match argument.toList with
  | '-' :: '-' :: rest => do
    let name := rest.takeWhile (· ≠ '=')
    let form ← forms.find? (·.name = String.ofList name)
    match rest.drop name.length with
    | [] => return ⟨form, none⟩
    | _ :: value => return ⟨form, some (String.ofList value)⟩
  | '-' :: letter :: rest => do
    let form ← forms.find? (·.letter = some letter)
    match rest with
    | [] => return ⟨form, none⟩
    | '=' :: value => return ⟨form, some (String.ofList value)⟩
    | value => return ⟨form, some (String.ofList value)⟩
  | _ => none

/-- An argument that is not taken for the value of the option before it. -/
def looksLikeOption (argument : String) : Bool :=
  match argument.toList with
  | '-' :: _ :: _ => true
  | _ => false

/-- A value that an option may have. -/
def OptionForm.accepts (form : OptionForm) (value : String) : Bool :=
  form.kind != .path || !value.isEmpty

/-- The options that arguments give.  Two dashes may stand after the last one. -/
def readOptions? (forms : List OptionForm) : List String → Option Given
  | [] => some []
  | argument :: rest =>
    if argument = "--" then if rest.isEmpty then some [] else none
    else do
      let use ← optionUse? forms argument
      let form := use.form
      match form.kind, use.attached, rest with
      | .nothing, none, rest => return (form.name, "") :: (← readOptions? forms rest)
      | .nothing, some _, _ => none
      | _, some value, rest =>
        if form.accepts value then return (form.name, value) :: (← readOptions? forms rest)
        else none
      | _, none, value :: rest =>
        if !looksLikeOption value && form.accepts value then
          return (form.name, value) :: (← readOptions? forms rest)
        else none
      | _, none, [] => none

/-- The values given for an option. -/
def Given.all (given : Given) (name : String) : List String :=
  (given.filter (·.1 = name)).map Prod.snd

/-- The value given for an option. -/
def Given.value? (given : Given) (name : String) : Option String := (given.all name).head?

/-- Only options that repeat are given more than once. -/
def areSingle (forms : List OptionForm) (given : Given) : Bool :=
  forms.all fun form => form.repeats || decide ((given.all form.name).length ≤ 1)

/-- The options of the command that shows one setting. -/
def getOptions : List OptionForm := [
  ⟨"file", some 'f', .path, false⟩, ⟨"key", some 'k', .text, false⟩,
  ⟨"type", some 't', .text, false⟩, ⟨"reveal", none, .nothing, false⟩]

/-- The options of the command that shows all settings. -/
def renderOptions : List OptionForm := [
  ⟨"file", some 'f', .path, false⟩, ⟨"schema", some 's', .text, true⟩]

/-- The options of the command that lists plugins. -/
def pluginsOptions : List OptionForm := [
  ⟨"dir", some 'd', .path, false⟩, ⟨"extension", none, .text, false⟩]

/-- The options that arguments give, each as often as it may be. -/
def readCommand? (forms : List OptionForm) (arguments : List String) : Option Given := do
  let given ← readOptions? forms arguments
  if areSingle forms given then some given else none

/-- The argument asks for the version of the program. -/
def asksVersion (argument : String) : Bool :=
  argument = "--version" || ['-', 'V'].isPrefixOf argument.toList

/-- The request that arguments make, where plugins have an extension unless another one is asked
for.  There is none if the arguments are not understood. -/
def Request.read? (defaultExtension : String) : List String → Option Request
  | [] => none
  | "get" :: arguments => do
    let given ← readCommand? getOptions arguments
    return .get (← given.value? "file") (← given.value? "key") (← given.value? "type")
      (given.value? "reveal").isSome
  | "render" :: arguments => do
    let given ← readCommand? renderOptions arguments
    return .render (← given.value? "file") (given.all "schema")
  | "plugins" :: arguments => do
    let given ← readCommand? pluginsOptions arguments
    return .plugins (← given.value? "dir") ((given.value? "extension").getD defaultExtension)
  | argument :: _ => if asksVersion argument then some .version else none

end Settings.Command
