import Settings.Yaml.Block
import Settings.Yaml.Layout
import Settings.Yaml.Quoted

/-!
The tokens of a text.

Every step skips what separates tokens and reads one token, so the number of
steps is bounded by the number of characters.
-/

namespace Settings.Yaml

/-- The mark that may stand before a text and is not part of it. -/
def byteOrderMark : Char := '\ufeff'

namespace Layout

/-- What surrounds a scalar. -/
def surroundings (layout : Layout) : Surroundings := ⟨layout.isFlow, layout.indent⟩

/-- The glyphs after blanks, comments and line ends.  Outside of brackets a new line may begin
with a key, and no tab may stand where a key may begin. -/
def skipToToken (layout : Layout) (inComment : Bool) : List Glyph → Layout × List Glyph
  | [] => (layout, [])
  | glyph :: rest =>
    let c := glyph.char
    if isBreak c then
      (if layout.isFlow then layout else layout.allowKey true).skipToToken false rest
    else if c == endMark then (layout, glyph :: rest)
    else if inComment then layout.skipToToken true rest
    else if glyph.index == 0 && c == byteOrderMark then layout.skipToToken false rest
    else if c == ' ' || (c == '\t' && (layout.isFlow || !layout.keyAllowed)) then
      layout.skipToToken false rest
    else if c == '#' then layout.skipToToken true rest
    else (layout, glyph :: rest)

/-- A directive. -/
def directive? (layout : Layout) (text : List Glyph) : Option (Layout × List Glyph) := do
  let layout ← (layout.outdentTo (-1)).dropKey?
  let (directive, rest) ← readDirective? text
  return ((layout.allowKey false).push (.directive directive), rest)

/-- The start or the end of a document. -/
def marker? (layout : Layout) (token : Token) (text : List Glyph) :
    Option (Layout × List Glyph) := do
  let layout ← (layout.outdentTo (-1)).dropKey?
  return ((layout.allowKey false).push token, text.drop 3)

/-- An opening bracket. -/
def opening? (layout : Layout) (token : Token) (glyph : Glyph) (rest : List Glyph) :
    Option (Layout × List Glyph) := do
  let layout ← layout.keepKey? glyph
  return ((layout.openFlow.allowKey true).push token, rest)

/-- A closing bracket. -/
def closing? (layout : Layout) (token : Token) (rest : List Glyph) :
    Option (Layout × List Glyph) := do
  let layout ← layout.dropKey?
  return ((layout.closeFlow.allowKey false).push token, rest)

/-- A comma. -/
def comma? (layout : Layout) (rest : List Glyph) : Option (Layout × List Glyph) := do
  let layout ← layout.dropKey?
  return ((layout.allowKey true).push .comma, rest)

/-- A block collection begins at a glyph, if it may. -/
def openBlock? (layout : Layout) (glyph : Glyph) (opening : Token) : Option Layout :=
  if layout.isFlow then some layout
  else if layout.keyAllowed then some (layout.indentTo glyph.column layout.count opening)
  else none

/-- The dash before an item. -/
def item? (layout : Layout) (glyph : Glyph) (rest : List Glyph) :
    Option (Layout × List Glyph) := do
  let layout ← (← layout.openBlock? glyph .blockSequence).dropKey?
  return ((layout.allowKey true).push .item, rest)

/-- The mark before a key. -/
def key? (layout : Layout) (glyph : Glyph) (rest : List Glyph) : Option (Layout × List Glyph) := do
  let layout ← (← layout.openBlock? glyph .blockMapping).dropKey?
  return ((layout.allowKey (!layout.isFlow)).push .key, rest)

/-- The colon before a value.  What began at the place kept for a key is one. -/
def value? (layout : Layout) (glyph : Glyph) (rest : List Glyph) :
    Option (Layout × List Glyph) := do
  match layout.site with
  | some site =>
    let layout := layout.insertAt site.position .key
    let layout := layout.indentTo site.glyph.column site.position .blockMapping
    return (({ layout with site := none }.allowKey false).push .value, rest)
  | none =>
    let layout ← layout.openBlock? glyph .blockMapping
    return ((layout.allowKey (!layout.isFlow)).push .value, rest)

/-- An alias, an anchor or a tag. -/
def property? (layout : Layout) (glyph : Glyph) (found : Option (Token × List Glyph)) :
    Option (Layout × List Glyph) := do
  let layout ← layout.keepKey? glyph
  let (token, rest) ← found
  return ((layout.allowKey false).push token, rest)

/-- A scalar that is not a block.  After a line end a key may follow. -/
def scalar? (layout : Layout) (glyph : Glyph) (isPlain : Bool) (found : Option ScalarText) :
    Option (Layout × List Glyph) := do
  let layout ← layout.keepKey? glyph
  let scalar ← found
  return ((layout.allowKey scalar.endsLine).push (.scalar isPlain scalar.content), scalar.rest)

/-- A block scalar. -/
def block? (layout : Layout) (text : List Glyph) : Option (Layout × List Glyph) := do
  let layout ← layout.dropKey?
  let scalar ← readBlock? layout.surroundings text
  return ((layout.allowKey scalar.endsLine).push (.scalar false scalar.content), scalar.rest)

/-- A dash, a question mark or a colon followed by this character may begin a plain scalar. -/
def beginsPlain (flow : Bool) (c next : Char) : Bool :=
  if c == '-' then !isBlank next
  else if c == '?' || c == ':' then !flow && !endsWord next
  else !isFlowIndicator c && !"#&*!|>'\"%@`".toList.contains c && !endsWord c

/-- The token at the start of the glyphs, and the glyphs after it. -/
def token? (layout : Layout) (glyph : Glyph) (rest : List Glyph) : Option (Layout × List Glyph) :=
  let c := glyph.char
  let next := Glyph.head rest
  let text := glyph :: rest
  let flow := layout.isFlow
  if glyph.column == 0 && c == '%' then layout.directive? text
  else if Glyph.isMarker '-' text then layout.marker? .documentStart text
  else if Glyph.isMarker '.' text then layout.marker? .documentEnd text
  else if c == '[' then layout.opening? .flowSequence glyph rest
  else if c == '{' then layout.opening? .flowMapping glyph rest
  else if c == ']' then layout.closing? .flowSequenceEnd rest
  else if c == '}' then layout.closing? .flowMappingEnd rest
  else if c == ',' then layout.comma? rest
  else if c == '-' && endsWord next then layout.item? glyph rest
  else if c == '?' && (flow || endsWord next) then layout.key? glyph rest
  else if c == ':' && (flow || endsWord next) then layout.value? glyph rest
  else if c == '*' then
    layout.property? glyph ((readAnchor? text).map fun (name, rest) => (.alias name, rest))
  else if c == '&' then
    layout.property? glyph ((readAnchor? text).map fun (name, rest) => (.anchor name, rest))
  else if c == '!' then
    layout.property? glyph ((readTag? flow text).map fun (tag, rest) => (.tag tag, rest))
  else if (c == '|' || c == '>') && !flow then layout.block? text
  else if c == '\'' then layout.scalar? glyph false (readQuoted? .single text)
  else if c == '"' then layout.scalar? glyph false (readQuoted? .double text)
  else if beginsPlain flow c next then
    layout.scalar? glyph true (readPlain? layout.surroundings text)
  else none

/-- All tokens, in at most `steps` steps. -/
def finish? : Nat → Layout → List Glyph → Option (List Token)
  | 0, _, _ => none
  | steps + 1, layout, text =>
    match layout.skipToToken false text with
    | (_, []) => none
    | (layout, glyph :: rest) => do
      let layout := (← layout.dropPastKeys? glyph).outdentTo glyph.column
      if glyph.char == endMark then
        let layout ← (layout.outdentTo (-1)).dropKey?
        return (layout.push .textEnd).tokens.reverse
      else
        let (layout, rest) ← layout.token? glyph rest
        finish? steps layout rest

end Layout

/-- The tokens of a text. -/
def tokens? (text : List Char) : Option (List Token) := do
  let glyphs ← glyphs? text
  Layout.start.finish? (glyphs.length + 1) glyphs

end Settings.Yaml
