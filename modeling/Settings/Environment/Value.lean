import Settings.Literal.Number
import Settings.Text.Blank
import Settings.Tree
import Settings.Word

/-!
Values of environment variables.

The text of a variable is a truth value, a number, a text with or without quotes,
a list in brackets or a map in braces.  A text that does not follow this grammar
from its start to its end stands for itself.
-/

namespace Settings.Environment

/-- The white space that is skipped around values. -/
def isSpace (c : Char) : Bool := [' ', '\t', '\n', '\x0c', '\r'].contains c

/-- The text without the white space at its start. -/
def skipSpace (text : List Char) : List Char := text.dropWhile isSpace

/-- A character that ends a word. -/
def isSeparator (c : Char) : Bool := [',', '{', '}', '[', ']'].contains c

/-- A character of a key without quotes. -/
def isKeyChar (c : Char) : Bool := c.isAlphanum || c == '_' || c == '-'

/-- The text between double quotes as it is written, given what comes after the opening quote,
and the text after the closing quote. -/
def splitQuoted? : List Char → Option (List Char × List Char)
  | [] => none
  | '"' :: rest => some ([], rest)
  | '\\' :: c :: rest => (splitQuoted? rest).map fun (content, rest) => ('\\' :: c :: content, rest)
  | c :: rest => (splitQuoted? rest).map fun (content, rest) => (c :: content, rest)

/-- The character that a backslash and a letter stand for. -/
def escapedChar? (letter : Char) : Option Char :=
  [('"', '"'), ('\\', '\\'), ('b', '\x08'), ('f', '\x0c'), ('n', '\n'), ('r', '\r'),
    ('t', '\t')].lookup letter

/-- The text that a text between double quotes stands for.  Control characters other than the tab
must be escaped. -/
def unescape? : List Char → Option (List Char)
  | [] => some []
  | '\\' :: 'u' :: a :: b :: c :: d :: rest => do
    return (← Text.numberedChar? [a, b, c, d]) :: (← unescape? rest)
  | '\\' :: 'U' :: a :: b :: c :: d :: e :: f :: g :: h :: rest => do
    return (← Text.numberedChar? [a, b, c, d, e, f, g, h]) :: (← unescape? rest)
  | '\\' :: letter :: rest => do return (← escapedChar? letter) :: (← unescape? rest)
  | c :: rest =>
    if c == '\\' || (c.toNat < 0x20 && c != '\t') || c == '\x7f' then none
    else (unescape? rest).map (c :: ·)

/-- The text between double quotes, given what comes after the opening quote, and the text after
the closing quote. -/
def readQuoted? (text : List Char) : Option (List Char × List Char) := do
  let (content, rest) ← splitQuoted? text
  return (← unescape? content, rest)

/-- An integer of 64 bits, signed or not, after an optional sign. -/
def readInteger? (text : List Char) : Option Int :=
  let (negative, digits) := Literal.splitSign text
  if digits.isEmpty || !digits.all Char.isDigit then none
  else
    let magnitude : Int := Text.digitsValue digits
    let value := if negative then -magnitude else magnitude
    if isWord value then some value else none

/-- The node of a word.  A word with a point in it may be a floating-point number, which is
infinite if it is too large. -/
def wordTree (word : List Char) : Tree :=
  let real : Option (Binary .double) :=
    if word.contains '.' then Literal.readRounded? word else none
  match real, readInteger? word with
  | some value, _ => .real value
  | none, some value => .integer value
  | none, none => .text (String.ofList word)

/-- A key and the text after it. -/
def readKey? (text : List Char) : Option (List Char × List Char) :=
  match text with
  | '"' :: rest => readQuoted? rest
  | text =>
    let key := text.takeWhile isKeyChar
    if key.isEmpty then none else some (key, text.dropWhile isKeyChar)

/-- A word: the text up to a separator, without the white space around it. -/
def readWord (text : List Char) : Tree × List Char :=
  let word := text.takeWhile fun c => !isSeparator c
  (wordTree (Text.trim word), text.drop word.length)

mutual

/-- The value at the start of a text and the text after it, in at most `steps` steps. -/
def readFrom? (steps : Nat) (text : List Char) : Option (Tree × List Char) :=
  match steps with
  | 0 => none
  | steps + 1 => do
    let (value, rest) ←
      match skipSpace text with
      | 't' :: 'r' :: 'u' :: 'e' :: rest => some (Tree.bool true, rest)
      | 'f' :: 'a' :: 'l' :: 's' :: 'e' :: rest => some (Tree.bool false, rest)
      | '{' :: rest => do
        let (members, rest) ← readMembers? steps rest
        return (Tree.ofMembers members, rest)
      | '[' :: rest => do
        let (items, rest) ← readItems? steps rest
        return (Tree.list items, rest)
      | '"' :: rest => do
        let (content, rest) ← readQuoted? rest
        return (Tree.text (String.ofList content), rest)
      | '\'' :: c :: '\'' :: rest => some (Tree.text (String.singleton c), rest)
      | '\'' :: _ => none
      | text => some (readWord text)
    return (value, skipSpace rest)

/-- The items of a list up to its closing bracket.  A comma may stand before the bracket. -/
def readItems? (steps : Nat) (text : List Char) : Option (List Tree × List Char) :=
  match steps with
  | 0 => none
  | steps + 1 =>
    match text with
    | ']' :: rest => some ([], rest)
    | text => do
      let (item, rest) ← readFrom? steps text
      match rest with
      | ',' :: rest =>
        let (items, rest) ← readItems? steps rest
        return (item :: items, rest)
      | ']' :: rest => return ([item], rest)
      | _ => none

/-- The members of a map up to its closing brace.  A comma may stand before the brace. -/
def readMembers? (steps : Nat) (text : List Char) : Option (List (String × Tree) × List Char) :=
  match steps with
  | 0 => none
  | steps + 1 =>
    match text with
    | '}' :: rest => some ([], rest)
    | text => do
      let (key, rest) ← readKey? (skipSpace text)
      match skipSpace rest with
      | '=' :: rest =>
        let (value, rest) ← readFrom? steps rest
        let member := (String.ofList key, value)
        match rest with
        | ',' :: rest =>
          let (members, rest) ← readMembers? steps rest
          return (member :: members, rest)
        | '}' :: rest => return ([member], rest)
        | _ => none
      | _ => none

end

/-- The node that the text of a variable stands for. -/
def readValue (text : String) : Tree :=
  match readFrom? (2 * text.length + 2) text.toList with
  | some (value, []) => value
  | _ => .text text

end Settings.Environment
