import Settings.Yaml.Gap

/-!
Plain scalars: words without quotes around them.
-/

namespace Settings.Yaml

/-- Where a scalar stands: the depth of collections in brackets around it, and the indentation
of the block around it, which is -1 at the top. -/
structure Surroundings where
  flow : Bool
  indent : Int
deriving Repr, DecidableEq

/-- A scalar that was read: its text, the glyphs after it, and whether a line end stands
between it and them. -/
structure ScalarText where
  content : List Char
  rest : List Glyph
  endsLine : Bool
deriving Repr, DecidableEq

/-- The characters that structure collections in brackets. -/
def isFlowIndicator (c : Char) : Bool := [',', '[', ']', '{', '}'].contains c

/-- A character that ends a plain scalar, given the one after it. -/
def endsPlain (flow : Bool) (c next : Char) : Bool :=
  (c == ':' && endsWord next) || (flow && isFlowIndicator c)

/-- A colon that may neither end a plain scalar nor be part of it. -/
def isStrayColon (flow : Bool) (c next : Char) : Bool :=
  flow && c == ':' && (isFlowIndicator next || next == '?')

/-- A plain scalar, given what was read of it in reverse and the gap since its last word. -/
def readPlainFrom (around : Surroundings) (read : List Char) (gap : Gap) :
    List Glyph → Option ScalarText
  | [] => none
  | glyph :: rest =>
    let c := glyph.char
    let finished := some ⟨read.reverse, glyph :: rest, gap.isFolded⟩
    let outdented := (glyph.column : Int) ≤ around.indent
    if isBlank c then
      if gap.isFolded && outdented && c == '\t' then none
      else readPlainFrom around read (gap.blank c) rest
    else if isBreak c then readPlainFrom around read (gap.lineEnd c) rest
    else if c == endMark then finished
    else if gap != .empty && (c == '#' || (!around.flow && outdented)) then finished
    else if Glyph.isDocumentMarker (glyph :: rest) then finished
    else if isStrayColon around.flow c (Glyph.head rest) then none
    else if endsPlain around.flow c (Glyph.head rest) then finished
    else readPlainFrom around (c :: (gap.text.reverse ++ read)) .empty rest

/-- The plain scalar at the start of the glyphs. -/
def readPlain? (around : Surroundings) (text : List Glyph) : Option ScalarText :=
  readPlainFrom around [] .empty text

end Settings.Yaml
