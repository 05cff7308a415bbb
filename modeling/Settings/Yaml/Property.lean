import Settings.Text.Digits
import Settings.Yaml.Glyph

/-!
Anchors, aliases, tags and directives.

A tag is a handle, which a directive gives a meaning, and a suffix; the handle of
a tag written out in full is empty.
-/

namespace Settings.Yaml

/-- A tag as it is written. -/
structure TagText where
  handle : List Char
  suffix : List Char
deriving Repr, DecidableEq

/-- What a line that begins with a percent sign declares. -/
inductive Directive where
  | version (major minor : Nat)
  | tag (handle start : List Char)
deriving Repr, DecidableEq

/-- The name of an anchor or an alias, and the glyphs after it.  The first glyph is its mark. -/
def readAnchor? (text : List Glyph) : Option (List Char × List Glyph) :=
  let name := Glyph.taken isNameChar text.tail
  let rest := Glyph.skip isNameChar text.tail
  let next := Glyph.head rest
  let ends := endsWord next || ['?', ':', ',', ']', '}', '%', '@', '`'].contains next
  if name.isEmpty || !ends then none else some (name, rest)

/-- A character of a tag; `full` holds in a tag written out in full. -/
def isTagChar (full : Bool) (c : Char) : Bool :=
  isNameChar c || ";/?:@&=+$.%!~*'()".toList.contains c || (full && [',', '[', ']'].contains c)

/-- The bytes of a text in which a percent sign and two hexadecimal digits stand for a byte. -/
def percentDecoded? : List Char → Option (List UInt8)
  | [] => some []
  | c :: rest =>
    if c = '%' then
      match rest with
      | a :: b :: rest => do
        let byte := (← Text.hexDigit? a) * 16 + (← Text.hexDigit? b)
        return UInt8.ofNat byte :: (← percentDecoded? rest)
      | _ => none
    else do return (String.singleton c).toUTF8.data.toList ++ (← percentDecoded? rest)

/-- The text of the characters of a tag at the start of the glyphs, and the glyphs after them. -/
def readTagChars? (full : Bool) (text : List Glyph) : Option (List Char × List Glyph) := do
  let bytes ← percentDecoded? (Glyph.taken (isTagChar full) text)
  let content ← String.fromUTF8? ⟨bytes.toArray⟩
  return (content.toList, Glyph.skip (isTagChar full) text)

/-- The handle at the start of the glyphs, and the glyphs after it: an exclamation mark, the
characters of a name, and an exclamation mark if there is another one. -/
def readHandle? (text : List Glyph) : Option (List Char × List Glyph) :=
  if Glyph.head text == '!' then
    let name := Glyph.taken isNameChar text.tail
    let rest := Glyph.skip isNameChar text.tail
    if Glyph.head rest == '!' then some ('!' :: name ++ ['!'], rest.tail)
    else some ('!' :: name, rest)
  else none

/-- A handle of more than one character is closed by an exclamation mark. -/
def isClosedHandle (handle : List Char) : Bool :=
  decide (1 < handle.length) && handle.getLast? == some '!'

/-- The tag that begins with `!`, and the glyphs after it.  What looks like the handle of a tag
is the start of its suffix unless it is closed. -/
def readShortTag? (text : List Glyph) : Option (TagText × List Glyph) := do
  let (handle, rest) ← readHandle? text
  let (suffix, rest) ← readTagChars? false rest
  if isClosedHandle handle then
    if suffix.isEmpty then none else return (⟨handle, suffix⟩, rest)
  else
    match handle.tail ++ suffix with
    | [] => return (⟨[], ['!']⟩, rest)
    | suffix => return (⟨['!'], suffix⟩, rest)

/-- The tag written out in full between `!<` and `>`, and the glyphs after it. -/
def readFullTag? (text : List Glyph) : Option (TagText × List Glyph) := do
  let (suffix, rest) ← readTagChars? true text.tail.tail
  if suffix.isEmpty || Glyph.head rest != '>' then none else return (⟨[], suffix⟩, rest.tail)

/-- The tag at the start of the glyphs, and the glyphs after it.  In collections in brackets a
comma may follow it at once. -/
def readTag? (flow : Bool) (text : List Glyph) : Option (TagText × List Glyph) := do
  let (tag, rest) ← if Glyph.second text == '<' then readFullTag? text else readShortTag? text
  let next := Glyph.head rest
  if endsWord next || (flow && next == ',') then return (tag, rest) else none

/-- The number of at most nine digits at the start of the glyphs, and the glyphs after it. -/
def readVersionNumber? (text : List Glyph) : Option (Nat × List Glyph) :=
  let digits := Glyph.taken Char.isDigit text
  if digits.isEmpty || 9 < digits.length then none
  else some (Text.digitsValue digits, Glyph.skip Char.isDigit text)

/-- The version that a directive declares, and the glyphs after it. -/
def readVersion? (text : List Glyph) : Option (Directive × List Glyph) := do
  let (major, rest) ← readVersionNumber? (Glyph.skip isBlank text)
  if Glyph.head rest != '.' then none
  else
    let (minor, rest) ← readVersionNumber? rest.tail
    return (.version major minor, rest)

/-- The meaning of a handle that a directive declares, and the glyphs after it. -/
def readHandleMeaning? (text : List Glyph) : Option (Directive × List Glyph) := do
  let (handle, rest) ← readHandle? (Glyph.skip isBlank text)
  if (handle != ['!'] && !isClosedHandle handle) || !isBlank (Glyph.head rest) then none
  else
    let (start, rest) ← readTagChars? true (Glyph.skip isBlank rest)
    if start.isEmpty || !endsWord (Glyph.head rest) then none else return (.tag handle start, rest)

/-- The directive at the start of the glyphs, which begin with a percent sign, and the glyphs
after its line. -/
def readDirective? (text : List Glyph) : Option (Directive × List Glyph) := do
  let name := Glyph.taken isNameChar text.tail
  let rest := Glyph.skip isNameChar text.tail
  if !endsWord (Glyph.head rest) then none
  else
    let (directive, rest) ←
      if name = "YAML".toList then readVersion? rest
      else if name = "TAG".toList then readHandleMeaning? rest
      else none
    return (directive, ← Glyph.finishLine? rest)

end Settings.Yaml
