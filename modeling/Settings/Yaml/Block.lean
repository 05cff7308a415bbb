import Settings.Text.Digits
import Settings.Yaml.Plain

/-!
Block scalars: indented lines after a header.

The header says whether line ends are kept or folded, what becomes of the line
ends at the end of the text, and by how much the lines are indented, unless the
first line that is not blank shows it.
-/

namespace Settings.Yaml

/-- What becomes of the line ends at the end of a block scalar. -/
inductive Chomping where
  | strip
  /-- The first line end is kept. -/
  | clip
  | keep
deriving Repr, DecidableEq

/-- The header of a block scalar: the chomping, and the indentation relative to the block around
it if it is given. -/
structure BlockHeader where
  chomping : Chomping
  indentation : Option Nat
deriving Repr, DecidableEq

/-- The chomping that a sign asks for. -/
def chomping? (sign : Char) : Option Chomping :=
  if sign == '+' then some .keep else if sign == '-' then some .strip else none

/-- The sign and the digit of a header, in either order and both optional, and the glyphs after
them.  An indentation of zero is refused. -/
def readHeader? (text : List Glyph) : Option (BlockHeader × List Glyph) :=
  let (before, text) := sign text
  let (digit, text) :=
    if (Glyph.head text).isDigit then (some (Glyph.head text), text.tail) else (none, text)
  let (after, text) := if before.isNone && digit.isSome then sign text else (none, text)
  if digit == some '0' then none
  else
    let chomping := (before.orElse fun _ => after).getD .clip
    some (⟨chomping, digit.map Text.digitValue⟩, text)
where
  /-- A sign, if there is one, and the glyphs after it. -/
  sign (text : List Glyph) : Option Chomping × List Glyph :=
    match chomping? (Glyph.head text) with
    | some chomping => (some chomping, text.tail)
    | none => (none, text)

/-- The line ends of the blank lines at the start of a block scalar, the greatest column at which
one of them or the line after them begins, and the glyphs from there on.  Without an indentation
all spaces are skipped. -/
def readBlankLines (indent : Option Nat) (breaks : List Char) (widest : Nat) :
    List Glyph → Option (List Char × Nat × List Glyph)
  | [] => none
  | glyph :: rest =>
    let inMargin := indent.all (glyph.column < ·)
    if inMargin && glyph.char == ' ' then readBlankLines indent breaks widest rest
    else if inMargin && glyph.char == '\t' then none
    else if isBreak glyph.char then
      readBlankLines indent (breaks ++ [glyph.char]) (max widest glyph.column) rest
    else some (breaks, max widest glyph.column, glyph :: rest)

/-- What was read of a block scalar: its text in reverse, the line end of its last line and those
of the blank lines after it, and whether its last line begins with a blank. -/
structure BlockText where
  read : List Char
  last : Option Char
  blankLines : List Char
  beginsBlank : Bool
deriving Repr, DecidableEq

namespace BlockText

/-- The text with the line ends before another line, of which one between two lines without a
blank at their start is folded. -/
def joined (block : BlockText) (folded nextBeginsBlank : Bool) : List Char :=
  let folds := folded && block.last == some '\n' && !block.beginsBlank && !nextBeginsBlank
  let first :=
    if folds then if block.blankLines.isEmpty then [' '] else [] else block.last.toList
  (first ++ block.blankLines).reverse ++ block.read

/-- The whole text. -/
def content (block : BlockText) (chomping : Chomping) : List Char :=
  match chomping with
  | .strip => block.read.reverse
  | .clip => block.read.reverse ++ block.last.toList
  | .keep => block.read.reverse ++ block.last.toList ++ block.blankLines

end BlockText

/-- The lines of a block scalar with an indentation, and the glyphs after them.  `inLine` holds
within a line, after its indentation. -/
def readBlockLines (folded : Bool) (indent : Nat) (inLine : Bool) (block : BlockText) :
    List Glyph → Option (BlockText × List Glyph)
  | [] => none
  | glyph :: rest =>
    let c := glyph.char
    if inLine then
      if c == endMark then some ({ block with last := none, blankLines := [] }, glyph :: rest)
      else if isBreak c then
        readBlockLines folded indent false { block with last := some c, blankLines := [] } rest
      else readBlockLines folded indent true { block with read := c :: block.read } rest
    else if glyph.column < indent && c == ' ' then readBlockLines folded indent false block rest
    else if glyph.column < indent && c == '\t' then none
    else if isBreak c then
      readBlockLines folded indent false { block with blankLines := block.blankLines ++ [c] } rest
    else if glyph.column == indent && c != endMark then
      let read := c :: block.joined folded (isBlank c)
      readBlockLines folded indent true ⟨read, none, [], isBlank c⟩ rest
    else some (block, glyph :: rest)

/-- The block scalar at the start of the glyphs, which begin with its style. -/
def readBlock? (around : Surroundings) (text : List Glyph) : Option ScalarText := do
  let folded := Glyph.head text == '>'
  let (header, text) ← readHeader? text.tail
  let text ← Glyph.finishLine? text
  let given := header.indentation.map fun count => (max around.indent 0).toNat + count
  let (breaks, widest, text) ← readBlankLines given [] 0 text
  let indent := given.getD (max (widest : Int) (max (around.indent + 1) 1)).toNat
  let (block, rest) ← readBlockLines folded indent false ⟨[], none, breaks, false⟩ text
  return ⟨block.content header.chomping, rest, true⟩

end Settings.Yaml
