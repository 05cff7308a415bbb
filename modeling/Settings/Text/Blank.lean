/-!
White space, and texts with the white space at their ends removed.

Texts are handled as lists of characters throughout the library; `String` is the
type in which they are stored and shown.
-/

namespace Settings.Text

/-- The Unicode property `White_Space`. -/
def isSpace (c : Char) : Bool :=
  let code := c.toNat
  (9 ≤ code && code ≤ 13) || code == 0x20 || code == 0x85 || code == 0xA0 || code == 0x1680 ||
    (0x2000 ≤ code && code ≤ 0x200A) || code == 0x2028 || code == 0x2029 || code == 0x202F ||
    code == 0x205F || code == 0x3000

/-- The text without the white space before its first other character. -/
def trimStart (text : List Char) : List Char :=
  text.dropWhile isSpace

/-- The text without the white space after its last other character. -/
def trimEnd (text : List Char) : List Char :=
  (text.reverse.dropWhile isSpace).reverse

/-- The text without the white space at either end. -/
def trim (text : List Char) : List Char :=
  trimEnd (trimStart text)

/-- The text holds white space only. -/
def isBlank (text : List Char) : Bool :=
  text.all isSpace

theorem trimStart_cons_of_isSpace {c : Char} (h : isSpace c = true) (text : List Char) :
    trimStart (c :: text) = trimStart text := by
  simp [trimStart, h]

theorem trimStart_cons_of_not_isSpace {c : Char} (h : isSpace c = false) (text : List Char) :
    trimStart (c :: text) = c :: text := by
  simp [trimStart, h]

end Settings.Text
