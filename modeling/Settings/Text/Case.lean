import Settings.Text.Case.Upper
import Settings.Text.Case.Lower
import Settings.Text.Case.Context

/-!
Upper and lower case of whole texts.

Case forms are the full ones: `ß` becomes `SS`, the capital I with a dot above
becomes two characters, and a capital sigma at the end of a word becomes the
final small sigma.  ASCII is decided by arithmetic and everything else by the
tables, all of Unicode 16.0, so statements about ASCII texts never meet a table.
-/

namespace Settings.Text

/-- Upper case form of one character. -/
def upperChar (c : Char) : List Char :=
  if c.toNat < 0x80 then [c.toUpper]
  else
    match entryBefore Case.upperExpansions Prod.fst c.toNat with
    | some (code, expansion) =>
      if code = c.toNat then expansion.map Char.ofNat
      else [Char.ofNat (shifted Case.upperShifts c.toNat)]
    | none => [Char.ofNat (shifted Case.upperShifts c.toNat)]

/-- Lower case form of one character, wherever it stands. -/
def lowerChar (c : Char) : List Char :=
  if c.toNat < 0x80 then [c.toLower]
  else if c.toNat = 0x130 then [Char.ofNat 0x69, Char.ofNat 0x307]
  else [Char.ofNat (shifted Case.lowerShifts c.toNat)]

/-- A letter that has a case. -/
def isCased (c : Char) : Bool :=
  if c.toNat < 0x80 then c.isAlpha else inRanges Case.casedRanges c.toNat

/-- A character that does not end a word, such as an apostrophe or an accent. -/
def isCaseIgnorable (c : Char) : Bool :=
  inRanges Case.ignorableRanges c.toNat

/-- The first character that is not ignored has a case. -/
def meetsCased (text : List Char) : Bool :=
  match text.dropWhile isCaseIgnorable with
  | c :: _ => isCased c
  | [] => false

/-- Lower case of `text` where `before` holds the characters in front of it,
nearest first. -/
def lowerAfter (before : List Char) : List Char → List Char
  | [] => []
  | c :: rest =>
    let form :=
      if c.toNat = 0x3A3 then
        if meetsCased before && !meetsCased rest then [Char.ofNat 0x3C2] else [Char.ofNat 0x3C3]
      else lowerChar c
    form ++ lowerAfter (c :: before) rest

/-- Upper case of a text. -/
def upper (text : List Char) : List Char :=
  text.flatMap upperChar

/-- Lower case of a text. -/
def lower (text : List Char) : List Char :=
  lowerAfter [] text

end Settings.Text
