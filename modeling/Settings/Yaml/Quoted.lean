import Settings.Text.Digits
import Settings.Yaml.Gap
import Settings.Yaml.Plain

/-!
Scalars between quotes.

Between single quotes a doubled quote stands for one, and nothing else is
special.  Between double quotes a backslash begins an escape: of one character,
of a character by its hexadecimal number, or of a line end, which then leaves no
space.
-/

namespace Settings.Yaml

/-- The two kinds of quotes around scalars. -/
inductive Quotes where
  | single
  | double
deriving Repr, DecidableEq

/-- The character that closes a scalar. -/
def Quotes.mark : Quotes → Char
  | .single => '\''
  | .double => '"'

/-- The character that a backslash and a letter stand for. -/
def escapedChar? (letter : Char) : Option Char :=
  [('0', '\x00'), ('a', '\x07'), ('b', '\x08'), ('t', '\t'), ('\t', '\t'), ('n', '\n'),
    ('v', '\x0b'), ('f', '\x0c'), ('r', '\r'), ('e', '\x1b'), (' ', ' '), ('"', '"'), ('/', '/'),
    ('\\', '\\'), ('N', '\u0085'), ('_', '\u00a0'), ('L', '\u2028'), ('P', '\u2029')].lookup letter

/-- The number of hexadecimal digits after a backslash and a letter. -/
def escapeLength? (letter : Char) : Option Nat :=
  [('x', 2), ('u', 4), ('U', 8)].lookup letter

/-- The character that an escape stands for, given the glyphs after the backslash, and the
number of glyphs that belong to the escape. -/
def readEscape? (text : List Glyph) : Option (Char × Nat) :=
  let letter := Glyph.head text
  match escapeLength? letter with
  | some length =>
    let digits := (text.tail.take length).map Glyph.char
    if digits.length < length then none
    else (Text.numberedChar? digits).map fun c => (c, length + 1)
  | none => (escapedChar? letter).map fun c => (c, 1)

/-- A scalar between quotes, given what was read of it in reverse and the gap since its last
word.  The opening quote is not among the glyphs.  `passed` counts the glyphs that belong to a
character that was read already. -/
def readQuotedFrom (quotes : Quotes) (passed : Nat) (read : List Char) (gap : Gap) :
    List Glyph → Option ScalarText
  | [] => none
  | glyph :: rest =>
    let c := glyph.char
    let before := gap.text.reverse ++ read
    match passed with
    | passed + 1 => readQuotedFrom quotes passed read gap rest
    | 0 =>
      if Glyph.isDocumentMarker (glyph :: rest) then none
      else if c == endMark then none
      else if isBlank c then readQuotedFrom quotes 0 read (gap.blank c) rest
      else if isBreak c then readQuotedFrom quotes 0 read (gap.lineEnd c) rest
      else if quotes == .single && c == '\'' && Glyph.head rest == '\'' then
        readQuotedFrom quotes 1 ('\'' :: before) .empty rest
      else if c == quotes.mark then some ⟨before.reverse, rest, false⟩
      else if quotes == .double && c == '\\' then
        if isBreak (Glyph.head rest) then readQuotedFrom quotes 1 before (.breaks none []) rest
        else
          match readEscape? rest with
          | none => none
          | some (character, length) =>
            readQuotedFrom quotes length (character :: before) .empty rest
      else readQuotedFrom quotes 0 (c :: before) .empty rest

/-- The scalar at the start of the glyphs, which begin with an opening quote. -/
def readQuoted? (quotes : Quotes) (text : List Glyph) : Option ScalarText :=
  readQuotedFrom quotes 0 [] .empty text.tail

end Settings.Yaml
