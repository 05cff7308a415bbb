import Settings.Yaml.Property

/-!
Layout: which collections the indentation of a text opens and closes, and where
keys begin.

A key without a mark of its own is known as a key only when the colon after it is
met.  The place of every token that may turn out to begin one is kept, and the
mark of the key, with the opening of a block mapping if need be, is put there
afterwards.
-/

namespace Settings.Yaml

/-- The words and marks of a text, with the bounds of collections that its layout implies. -/
inductive Token where
  | directive (directive : Directive)
  | documentStart
  | documentEnd
  | textEnd
  | blockSequence
  | blockMapping
  | blockEnd
  | flowSequence
  | flowSequenceEnd
  | flowMapping
  | flowMappingEnd
  /-- The dash before an item of a block sequence. -/
  | item
  /-- The comma between the entries of a collection in brackets. -/
  | comma
  | key
  | value
  | alias (name : List Char)
  | anchor (name : List Char)
  | tag (text : TagText)
  | scalar (isPlain : Bool) (content : List Char)
deriving Repr, DecidableEq

/-- A place where a key may begin: the number of tokens before it, and its first glyph.  Where a
key is required, nothing else may begin. -/
structure KeySite where
  position : Nat
  glyph : Glyph
  required : Bool
deriving Repr, DecidableEq

/-- What is known of a text up to some place. -/
structure Layout where
  /-- The tokens so far, latest first, and their number. -/
  tokens : List Token
  count : Nat
  /-- The column of the innermost block collection, and of those around it; -1 stands for none. -/
  indent : Int
  outerIndents : List Int
  /-- The place where a key may begin within the innermost pair of brackets, and within those
  around it. -/
  site : Option KeySite
  outerSites : List (Option KeySite)
  /-- A key may begin here. -/
  keyAllowed : Bool
deriving Repr, DecidableEq

namespace Layout

/-- The layout at the start of a text. -/
def start : Layout := ⟨[], 0, -1, [], none, [], true⟩

/-- The place is within brackets, where indentation has no meaning. -/
def isFlow (layout : Layout) : Bool := !layout.outerSites.isEmpty

/-- Another token at the end. -/
def push (layout : Layout) (token : Token) : Layout :=
  { layout with tokens := token :: layout.tokens, count := layout.count + 1 }

/-- Another token, after a number of tokens from the start. -/
def insertAt (layout : Layout) (position : Nat) (token : Token) : Layout :=
  let later := layout.count - position
  { layout with
    tokens := layout.tokens.take later ++ token :: layout.tokens.drop later
    count := layout.count + 1 }

/-- Whether a key may begin at the next place. -/
def allowKey (layout : Layout) (keyAllowed : Bool) : Layout := { layout with keyAllowed }

/-- Open a block collection at a column, unless the block around is indented as much. -/
def indentTo (layout : Layout) (column position : Nat) (opening : Token) : Layout :=
  if layout.isFlow || (column : Int) ≤ layout.indent then layout
  else
    { layout.insertAt position opening with
      indent := column, outerIndents := layout.indent :: layout.outerIndents }

/-- The tokens and the indentation after the blocks indented more than a column are closed. -/
def closeBlocks (column : Int) (layout : Layout) (indent : Int) : List Int → Layout
  | [] => { layout with indent, outerIndents := [] }
  | outer :: rest =>
    if column < indent then closeBlocks column (layout.push .blockEnd) outer rest
    else { layout with indent, outerIndents := outer :: rest }

/-- Close the block collections indented more than a column. -/
def outdentTo (layout : Layout) (column : Int) : Layout :=
  if layout.isFlow then layout
  else closeBlocks column layout layout.indent layout.outerIndents

/-- A place that is given up; a key that is required there is missing. -/
def giveUp? : Option KeySite → Option (Option KeySite)
  | none => some none
  | some site => if site.required then none else some none

/-- No key begins at the place kept for the innermost brackets. -/
def dropKey? (layout : Layout) : Option Layout := do
  return { layout with site := ← giveUp? layout.site }

/-- A key may begin with the next token, if one is allowed here. -/
def keepKey? (layout : Layout) (glyph : Glyph) : Option Layout := do
  if layout.keyAllowed then
    let layout ← layout.dropKey?
    let required := !layout.isFlow && layout.indent == (glyph.column : Int)
    return { layout with site := some ⟨layout.count, glyph, required⟩ }
  else return layout

/-- The greatest number of characters in a key without a mark. -/
def maxKeyLength : Nat := 1024

/-- A key that began at a place can no longer end at a glyph. -/
def KeySite.isPast (site : KeySite) (glyph : Glyph) : Bool :=
  site.glyph.line < glyph.line || site.glyph.index + maxKeyLength < glyph.index

/-- The place, unless it lies too far behind. -/
def current? (glyph : Glyph) (site : Option KeySite) : Option (Option KeySite) :=
  if site.any fun site => KeySite.isPast site glyph then giveUp? site else some site

/-- The places of keys that may still end at a glyph. -/
def dropPastKeys? (layout : Layout) (glyph : Glyph) : Option Layout := do
  return { layout with
    site := ← current? glyph layout.site
    outerSites := ← layout.outerSites.mapM (current? glyph) }

/-- Within another pair of brackets. -/
def openFlow (layout : Layout) : Layout :=
  { layout with site := none, outerSites := layout.site :: layout.outerSites }

/-- Behind the innermost pair of brackets, if there is one. -/
def closeFlow (layout : Layout) : Layout :=
  match layout.outerSites with
  | [] => layout
  | site :: rest => { layout with site, outerSites := rest }

end Layout

end Settings.Yaml
