import Settings.Properties.Escape
import Settings.Properties.Lines
import Settings.Table

/-!
Reading and writing properties: texts under text keys, one entry to a line.
-/

namespace Settings.Properties

/-- A malformed unicode escape in the logical line that begins at a natural line. -/
structure SyntaxFault where
  line : Nat
deriving Repr, DecidableEq

/-- The wording of a fault. -/
def SyntaxFault.message (fault : SyntaxFault) : String :=
  "Syntax error on line " ++ String.ofList (Text.ofNat fault.line) ++
    ": malformed \\uxxxx escape"

/-- The key of a line, up to the first separator or blank that is not escaped, and the
rest of the line from there. -/
def splitKey : List Char → List Char × List Char
  | [] => ([], [])
  | c :: rest =>
    if c = '\\' then
      match rest with
      | [] => ([c], [])
      | next :: after =>
        let (key, remaining) := splitKey after
        (c :: next :: key, remaining)
    else if c = '=' || c = ':' || isBlank c then ([], c :: rest)
    else
      let (key, remaining) := splitKey rest
      (c :: key, remaining)

/-- The text after the blanks around at most one separator. -/
def skipSeparator (text : List Char) : List Char :=
  match skipBlanks text with
  | [] => []
  | c :: rest => if c = '=' || c = ':' then skipBlanks rest else c :: rest

/-- The entry of a logical line. -/
def readEntry (line : LogicalLine) : Except SyntaxFault (String × String) :=
  let (key, rest) := splitKey line.content
  match unescape? key, unescape? (skipSeparator rest) with
  | some key, some value => .ok (String.ofList key, String.ofList value)
  | _, _ => .error ⟨line.number⟩

/-- The properties of a text.  Of entries with the same key the last one counts. -/
def read (text : List Char) : Except SyntaxFault (Table String) := do
  return Table.ofList (← (logicalLines 1 none (naturalLines text)).mapM readEntry)

/-- The line of an entry. -/
def writeEntry (entry : String × String) : List Char :=
  escapeKey entry.1.toList ++ '=' :: (escapeValue entry.2.toList ++ ['\n'])

/-- The text of properties, a line to an entry in key order. -/
def write (properties : Table String) : String :=
  String.ofList (properties.entries.flatMap writeEntry)

end Settings.Properties
