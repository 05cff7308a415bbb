import Settings.Environment.Overrides
import Settings.Files.FileSystem
import Settings.Text.Alphanumeric

/-!
Files of environment variables.

Each line names a variable and its value, in which words may be quoted and other
variables may be named after a dollar sign.  A line sets a variable only if it is
not set yet, and the first line that is not well formed ends the file.
-/

namespace Settings.Environment

/-- The text of a variable. -/
def text? (environment : Variables) (name : List Char) : Option String :=
  environment.lookup (String.ofList name)

/-- The quotes around a part of a value. -/
inductive Quotation where
  | none
  | single
  | double
deriving Repr, DecidableEq

/-- What the next character of a value is part of. -/
inductive ValuePart where
  | word
  | escape
  /-- The name of a variable, without braces or with them. -/
  | name (read : List Char)
  | bracedName (read : List Char)
  /-- What may follow the value. -/
  | ending
deriving Repr, DecidableEq

/-- The characters that a backslash may stand before, and what the two stand for. -/
def valueEscape? (c : Char) : Option Char :=
  if c == 'n' then some '\n' else if ['\\', '\'', '"', '$', ' '].contains c then some c else none

/-- The text of a named variable after what was read so far; without a text it is empty. -/
def substitute (environment : Variables) (name read : List Char) : List Char :=
  read ++ ((text? environment name).getD "").toList

/-- A value, given what was read of it. -/
def readValueFrom? (environment : Variables) (quotes : Quotation) (part : ValuePart)
    (read : List Char) : List Char → Option (List Char)
  | [] =>
    match quotes, part with
    | .none, .bracedName _ => none
    | .none, .name name => some (substitute environment name read)
    | .none, _ => some read
    | _, _ => none
  | c :: rest =>
    match part with
    | .ending =>
      if c == ' ' || c == '\t' then readValueFrom? environment quotes .ending read rest
      else if c == '#' then some read
      else none
    | .escape =>
      match valueEscape? c with
      | some c => readValueFrom? environment quotes .word (read ++ [c]) rest
      | none => none
    | .name name =>
      if Text.isAlphanumeric c then
        readValueFrom? environment quotes (.name (name ++ [c])) read rest
      else if c == '{' && name.isEmpty then
        readValueFrom? environment quotes (.bracedName []) read rest
      else
        let read := substitute environment name read
        if c == '$' then readValueFrom? environment quotes (.name []) read rest
        else readValueFrom? environment quotes .word (read ++ [c]) rest
    | .bracedName name =>
      if c == '}' then
        readValueFrom? environment quotes .word (substitute environment name read) rest
      else readValueFrom? environment quotes (.bracedName (name ++ [c])) read rest
    | .word =>
      match quotes with
      | .single =>
        if c == '\'' then readValueFrom? environment .none .word read rest
        else readValueFrom? environment .single .word (read ++ [c]) rest
      | .double =>
        if c == '$' then readValueFrom? environment .double (.name []) read rest
        else if c == '"' then readValueFrom? environment .none .word read rest
        else if c == '\\' then readValueFrom? environment .double .escape read rest
        else readValueFrom? environment .double .word (read ++ [c]) rest
      | .none =>
        if c == '$' then readValueFrom? environment .none (.name []) read rest
        else if c == '\'' then readValueFrom? environment .single .word read rest
        else if c == '"' then readValueFrom? environment .double .word read rest
        else if c == '\\' then readValueFrom? environment .none .escape read rest
        else if c == ' ' || c == '\t' then readValueFrom? environment .none .ending read rest
        else readValueFrom? environment .none .word (read ++ [c]) rest

/-- A character of the name of a variable. -/
def isNameChar (c : Char) : Bool := c.isAlphanum || c == '_' || c == '.'

/-- The name at the start of a line, and what follows it and white space. -/
def readName? (line : List Char) : Option (List Char × List Char) :=
  if line.head?.any fun c => c.isAlpha || c == '_' then
    some (line.takeWhile isNameChar, Text.trimStart (line.dropWhile isNameChar))
  else none

/-- The name of the variable that a line sets, and what follows the equals sign.  The word
`export` may stand before the name. -/
def readAssignment? (line : List Char) : Option (List Char × List Char) := do
  match ← readName? line with
  | (name, '=' :: rest) => return (name, Text.trimStart rest)
  | (name, rest) =>
    if name = "export".toList then
      match ← readName? rest with
      | (name, '=' :: rest) => return (name, Text.trimStart rest)
      | _ => none
    else none

/-- The text is empty or a comment. -/
def isIdle (text : List Char) : Bool := text.isEmpty || text.head? == some '#'

/-- The variable that a line sets, if the line is well formed; an empty line sets none. -/
def readLine? (environment : Variables) (line : List Char) : Option (Option (String × String)) := do
  let line := Text.trim line
  if isIdle line then return none
  else
    let (name, value) ← readAssignment? line
    let value ← if isIdle value then some [] else readValueFrom? environment .none .word [] value
    return some (String.ofList name, String.ofList value)

/-- The lines of a file, without their ends. -/
def splitLines (content : List UInt8) : List (List UInt8) :=
  content.foldr
    (fun byte lines =>
      if byte = 10 then [] :: lines
      else
        match lines with
        | [] => [[byte]]
        | line :: others => (byte :: line) :: others)
    [[]]

/-- The variables after the lines of a file. -/
def readLines (environment : Variables) : List (List UInt8) → Variables
  | [] => environment
  | line :: rest =>
    match (String.fromUTF8? ⟨line.toArray⟩).bind fun text => readLine? environment text.toList with
    | none => environment
    | some none => readLines environment rest
    | some (some (name, text)) =>
      if (environment.lookup name).isSome then readLines environment rest
      else readLines (environment ++ [(name, text)]) rest

/-- The name of the file of variables in the working directory. -/
def fileName : String := ".env"

/-- The variables after those that the file of the working directory sets. -/
def withFile (files : FileSystem) (environment : Variables) : Variables :=
  match files.readBytes fileName with
  | .ok content => readLines environment (splitLines content)
  | .error _ => environment

end Settings.Environment
