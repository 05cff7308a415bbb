import Settings.Yaml.Glyph

/-!
The blanks and line ends between the words of a scalar that is written over
several lines.

Blanks within a line stand for themselves.  A single line end stands for a space,
and of several line ends the first one is dropped; blanks beside line ends are
dropped too.  A separator of lines or paragraphs is never dropped.
-/

namespace Settings.Yaml

/-- What was read since the last word. -/
inductive Gap where
  /-- Blanks only. -/
  | blanks (text : List Char)
  /-- A line end, which is missing if it was escaped, and the line ends after it. -/
  | breaks (first : Option Char) (others : List Char)
deriving Repr, DecidableEq

namespace Gap

/-- Nothing was read yet. -/
def empty : Gap := .blanks []

/-- A line end is part of the gap. -/
def isFolded : Gap → Bool
  | .blanks _ => false
  | .breaks .. => true

/-- The gap followed by a blank. -/
def blank (c : Char) : Gap → Gap
  | .blanks text => .blanks (text ++ [c])
  | .breaks first others => .breaks first others

/-- The gap followed by a line end. -/
def lineEnd (c : Char) : Gap → Gap
  | .blanks _ => .breaks (some c) []
  | .breaks first others => .breaks first (others ++ [c])

/-- The text that the gap stands for. -/
def text : Gap → List Char
  | .blanks text => text
  | .breaks (some '\n') others => if others.isEmpty then [' '] else others
  | .breaks first others => first.toList ++ others

end Gap

end Settings.Yaml
