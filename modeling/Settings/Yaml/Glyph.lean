import Settings.Text.Blank

/-!
The characters of a YAML text, each with its place.

Layout carries meaning in YAML, so every reader needs the columns of the
characters it reads.  They are computed once: a text becomes a list of glyphs,
and the readers are functions on such lists.  The list is closed by a glyph that
no text can hold, so that what follows a character can always be asked for.
-/

namespace Settings.Yaml

/-- The characters that a text may hold. -/
def isAllowed (c : Char) : Bool :=
  let code := c.toNat
  code == 0x09 || code == 0x0A || code == 0x0D || (0x20 ≤ code && code ≤ 0x7E) || code == 0x85 ||
    (0xA0 ≤ code && code ≤ 0xFFFD) || 0x10000 ≤ code

/-- The character after the last one of a text. -/
def endMark : Char := '\x00'

/-- A space or a tab. -/
def isBlank (c : Char) : Bool := c == ' ' || c == '\t'

/-- The end of a line, once the line ends of a text are unified. -/
def isBreak (c : Char) : Bool := c == '\n' || c == '\u2028' || c == '\u2029'

/-- The end of a line or of the text. -/
def isBreakOrEnd (c : Char) : Bool := isBreak c || c == endMark

/-- What ends a word: a blank, the end of a line or the end of the text. -/
def endsWord (c : Char) : Bool := isBlank c || isBreakOrEnd c

/-- A character of names of anchors, directives and handles. -/
def isNameChar (c : Char) : Bool := c.isAlphanum || c == '_' || c == '-'

/-- The text with every line feed, carriage return, pair of the two and next-line character
made one line feed.  The separators of lines and paragraphs stay as they are. -/
def unifyBreaks : List Char → List Char
  | [] => []
  | '\r' :: '\n' :: rest => '\n' :: unifyBreaks rest
  | '\r' :: rest => '\n' :: unifyBreaks rest
  | '\u0085' :: rest => '\n' :: unifyBreaks rest
  | c :: rest => c :: unifyBreaks rest

/-- A character and its place: the number of characters before it, the number of its line and
its column. -/
structure Glyph where
  char : Char
  index : Nat
  line : Nat
  column : Nat
deriving Repr, DecidableEq, Inhabited

/-- The glyphs of a text that begins at a place, closed by the end mark. -/
def glyphsFrom (index line column : Nat) : List Char → List Glyph
  | [] => [⟨endMark, index, line, column⟩]
  | c :: rest =>
    ⟨c, index, line, column⟩ ::
      if isBreak c then glyphsFrom (index + 1) (line + 1) 0 rest
      else glyphsFrom (index + 1) line (column + 1) rest

/-- The glyphs of a text whose characters are all allowed. -/
def glyphs? (text : List Char) : Option (List Glyph) :=
  if text.all isAllowed then some (glyphsFrom 0 0 0 (unifyBreaks text)) else none

namespace Glyph

/-- The first character of the glyphs. -/
def head (text : List Glyph) : Char :=
  match text with
  | [] => endMark
  | glyph :: _ => glyph.char

/-- The second character of the glyphs. -/
def second (text : List Glyph) : Char := head text.tail

/-- The column of the first glyph. -/
def startColumn (text : List Glyph) : Nat :=
  match text with
  | [] => 0
  | glyph :: _ => glyph.column

/-- The glyphs after those at the start that satisfy a test. -/
def skip (test : Char → Bool) (text : List Glyph) : List Glyph :=
  text.dropWhile fun glyph => test glyph.char

/-- The characters at the start that satisfy a test. -/
def taken (test : Char → Bool) (text : List Glyph) : List Char :=
  (text.takeWhile fun glyph => test glyph.char).map Glyph.char

/-- The glyphs from the end of the line on. -/
def skipLine (text : List Glyph) : List Glyph := skip (fun c => !isBreakOrEnd c) text

/-- The glyphs after the end of a line on which only blanks and a comment are left. -/
def finishLine? (text : List Glyph) : Option (List Glyph) :=
  let text := skip isBlank text
  let text := if head text == '#' then skipLine text else text
  if isBreak (head text) then some text.tail
  else if head text == endMark then some text
  else none

/-- The glyphs are at the start of a line that begins with three times the same character and
nothing that would continue the word. -/
def isMarker (mark : Char) (text : List Glyph) : Bool :=
  match text with
  | first :: second :: third :: rest =>
    first.column == 0 && first.char == mark && second.char == mark && third.char == mark &&
      endsWord (head rest)
  | _ => false

/-- The glyphs are at a line that begins or ends a document. -/
def isDocumentMarker (text : List Glyph) : Bool := isMarker '-' text || isMarker '.' text

end Glyph

end Settings.Yaml
