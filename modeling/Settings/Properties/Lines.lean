/-!
The lines of a text of properties.

Natural lines end at a line feed or at a carriage return directly before one.  A
natural line that ends in an odd number of backslashes is continued by the next
one, without that last backslash and without the blanks at the start of the next
line.  Comments and blank lines count only where no line is continued.
-/

namespace Settings.Properties

/-- The characters that separate keys from values and are skipped at the start of a line. -/
def isBlank (c : Char) : Bool := c == ' ' || c == '\t' || c == '\x0c'

/-- The text without the blanks at its start. -/
def skipBlanks (text : List Char) : List Char := text.dropWhile isBlank

/-- The natural lines of a text, without their ends. -/
def naturalLines : List Char → List (List Char)
  | [] => []
  | '\n' :: rest => [] :: naturalLines rest
  | '\r' :: '\n' :: rest => [] :: naturalLines rest
  | c :: rest =>
    match naturalLines rest with
    | [] => [[c]]
    | line :: others => (c :: line) :: others

/-- A logical line, with the number of its first natural line. -/
structure LogicalLine where
  number : Nat
  content : List Char
deriving Repr, DecidableEq

/-- The text is empty or begins with the mark of a comment. -/
def isIgnored (text : List Char) : Bool :=
  match text with
  | [] => true
  | c :: _ => c == '#' || c == '!'

/-- The text ends in an odd number of backslashes. -/
def isContinued (text : List Char) : Bool :=
  (text.reverse.takeWhile (· == '\\')).length % 2 == 1

/-- The logical lines made of natural lines, of which the first has the given number,
where `pending` is the line that is still to be continued. -/
def logicalLines (number : Nat) (pending : Option LogicalLine) :
    List (List Char) → List LogicalLine
  | [] => pending.toList
  | natural :: rest =>
    let text := skipBlanks natural
    if pending.isNone && isIgnored text then logicalLines (number + 1) none rest
    else
      let line := pending.getD ⟨number, []⟩
      if isContinued text then
        logicalLines (number + 1) (some ⟨line.number, line.content ++ text.dropLast⟩) rest
      else ⟨line.number, line.content ++ text⟩ :: logicalLines (number + 1) none rest

end Settings.Properties
