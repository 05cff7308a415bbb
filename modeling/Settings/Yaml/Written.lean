import Settings.Table
import Settings.Yaml.Scalar
import Settings.Yaml.Glyph

/-!
Texts under text keys as a YAML document.

A text is written in the plainest style in which it is read back as that text:
without quotes, between single quotes, as a literal block if it has several
lines, or between double quotes with escapes.  Lines are never folded.
-/

namespace Settings.Yaml

/-- The styles in which texts are written. -/
inductive Style where
  | plain
  | single
  | double
  | literal
deriving Repr, DecidableEq

/-- The end of a line in a text whose line ends are not unified. -/
def isLineEnd (c : Char) : Bool := isBreak c || c == '\r' || c == '\u0085'

/-- A character that separates words: a blank, the end of a line or the end mark. -/
def separatesWords (c : Char) : Bool := isBlank c || isLineEnd c || c == endMark

/-- A character that may be written without an escape. -/
def isPrintable (c : Char) : Bool :=
  let code := c.toNat
  code == 0x0A || (0x20 ≤ code && code ≤ 0x7E) ||
    (0xA0 ≤ code && code ≤ 0xFFFD && code != 0xFEFF) || 0x10000 ≤ code

/-- The pairs of neighbouring characters of a text. -/
def neighbours (text : List Char) : List (Char × Char) := text.zip text.tail

/-- Some pair of neighbouring characters satisfies a test on each. -/
def hasNeighbours (first second : Char → Bool) (text : List Char) : Bool :=
  (neighbours text).any fun (c, next) => first c && second next

/-- The text has several lines. -/
def isMultiline (text : List Char) : Bool := text.any isLineEnd

/-- The text would be read as something other than a plain scalar, or be cut short. -/
def hasIndicator (text : List Char) : Bool :=
  let first := text.head?.getD endMark
  let second := text.tail.head?.getD endMark
  ['-', '-', '-'].isPrefixOf text || ['.', '.', '.'].isPrefixOf text ||
    "#,[]{}&*!|>'\"%@`".toList.contains first ||
    (['?', ':', '-'].contains first && separatesWords second) ||
    hasNeighbours (· == ':') separatesWords text || text.getLast? == some ':' ||
    hasNeighbours separatesWords (· == '#') text

/-- The text begins or ends with a space or the end of a line. -/
def hasLooseEnd (text : List Char) : Bool :=
  let isLoose (c : Char) := c == ' ' || isLineEnd c
  text.head?.any isLoose || text.getLast?.any isLoose

/-- Some space stands before the end of a line, or some character must be escaped. -/
def needsEscapes (text : List Char) : Bool :=
  hasNeighbours (· == ' ') isLineEnd text || text.any fun c => !isPrintable c

/-- The text can be written without quotes. -/
def allowsPlain (text : List Char) : Bool :=
  !needsEscapes text && !isMultiline text && !hasLooseEnd text && !hasIndicator text

/-- The text can be written between single quotes. -/
def allowsSingle (text : List Char) : Bool :=
  !needsEscapes text && !hasNeighbours isLineEnd (· == ' ') text

/-- The text can be written as a literal block. -/
def allowsLiteral (text : List Char) : Bool :=
  !needsEscapes text && text.getLast? != some ' '

/-- Without quotes the text would be read as something other than a text, or looks like a
number. -/
def isAmbiguous (text : List Char) : Bool :=
  hasIdleZero text ||
    match resolvePlain text with
    | .text _ => false
    | _ => true

/-- The style in which a text is written. -/
def styleOf (text : List Char) : Style :=
  if text.contains '\n' then if allowsLiteral text then .literal else .double
  else if allowsPlain text && !isAmbiguous text then .plain
  else if allowsSingle text then .single
  else .double

/-- The letter after a backslash that stands for a character. -/
def escapeLetter? (c : Char) : Option Char :=
  [('\x00', '0'), ('\x07', 'a'), ('\x08', 'b'), ('\t', 't'), ('\n', 'n'), ('\x0b', 'v'),
    ('\x0c', 'f'), ('\r', 'r'), ('\x1b', 'e'), ('"', '"'), ('\\', '\\'), ('\u0085', 'N'),
    ('\u2028', 'L'), ('\u2029', 'P')].lookup c

/-- The escape of a character: a letter, or its number in two, four or eight digits. -/
def escapeOf (c : Char) : List Char :=
  match escapeLetter? c with
  | some letter => ['\\', letter]
  | none =>
    let (mark, width) :=
      if c.toNat ≤ 0xFF then ('x', 2) else if c.toNat ≤ 0xFFFF then ('u', 4) else ('U', 8)
    '\\' :: mark :: (Text.hexField width c.toNat).map Char.toUpper

/-- The form of a character between double quotes. -/
def escapedForm (c : Char) : List Char :=
  if !isPrintable c || isLineEnd c || c == '"' || c == '\\' then escapeOf c else [c]

/-- The spaces before a line of a scalar that has several. -/
def indentation : List Char := [' ', ' ']

/-- The text between single quotes, where lines after the first are indented. -/
def singleForm (afterBreak : Bool) : List Char → List Char
  | [] => if afterBreak then indentation else []
  | c :: rest =>
    if isLineEnd c then c :: singleForm true rest
    else
      (if afterBreak then indentation else []) ++
        (if c == '\'' then ['\'', '\''] else [c]) ++ singleForm false rest

/-- The lines of a literal block, indented unless they are empty. -/
def literalForm (atStart : Bool) : List Char → List Char
  | [] => []
  | c :: rest =>
    if isLineEnd c then c :: literalForm true rest
    else (if atStart then indentation else []) ++ c :: literalForm false rest

/-- The header of a literal block: the indentation, if the first line does not show it, and what
becomes of the line ends at the end of the text. -/
def literalHeader (text : List Char) : List Char :=
  let hint := if text.head?.any fun c => c == ' ' || isLineEnd c then ['2'] else []
  let chomping :=
    match text.reverse with
    | [] => ['-']
    | [last] => if isLineEnd last then ['+'] else ['-']
    | last :: before :: _ =>
      if !isLineEnd last then ['-'] else if isLineEnd before then ['+'] else []
  '|' :: hint ++ chomping

/-- A text as a scalar. -/
def writeScalar (text : List Char) : List Char :=
  match styleOf text with
  | .plain => text
  | .single => '\'' :: singleForm false text ++ ['\'']
  | .double => '"' :: text.flatMap escapedForm ++ ['"']
  | .literal => literalHeader text ++ '\n' :: literalForm true text

/-- The text with the end of its last line, which a block may have already. -/
def endLine (text : List Char) : List Char :=
  if text.getLast?.any isLineEnd then text else text ++ ['\n']

/-- The greatest number of bytes in a key without a mark. -/
def maxBareKeySize : Nat := 128

/-- A key that is written without a mark before it. -/
def isBareKey (key : String) : Bool :=
  decide (key.utf8ByteSize ≤ maxBareKeySize) && !isMultiline key.toList

/-- An entry on lines of its own. -/
def writeEntry (entry : String × String) : List Char :=
  let key := writeScalar entry.1.toList
  let value := ':' :: ' ' :: writeScalar entry.2.toList
  if isBareKey entry.1 then endLine (key ++ value)
  else endLine ('?' :: ' ' :: key) ++ endLine value

/-- The document of a table. -/
def write (table : Table String) : String :=
  if table.entries.isEmpty then "{}\n"
  else String.ofList (table.entries.flatMap writeEntry)

end Settings.Yaml
