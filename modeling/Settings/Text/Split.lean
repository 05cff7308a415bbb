import Settings.Text.Quoted

/-!
Splitting a text at a delimiter, quoted runs excepted.

The text is first cut into tokens: quoted runs, unquoted elements and delimiters,
each with its position, counted in characters.  White space around tokens is
dropped.  The elements are then read off the tokens: a quoted run must be
followed by a delimiter or the end, and two delimiters in a row have an empty
element between them.  A blank text has no elements.
-/

namespace Settings.Text

/-- A token of a delimited text, with the position of its first character. -/
inductive Token where
  | quoted (content : List Char) (position : Nat)
  | bare (content : List Char) (position : Nat)
  | delimiter (position : Nat)
deriving Repr, DecidableEq

/-- The position of the first character of a token. -/
def Token.position : Token → Nat
  | .quoted _ position => position
  | .bare _ position => position
  | .delimiter position => position

/-- Why a text cannot be split. -/
inductive SplitFault where
  /-- The run that opens here is not closed. -/
  | unclosed (position : Nat)
  /-- A quoted run is followed by other text, which begins here. -/
  | textAfterQuotes (position : Nat)
deriving Repr, DecidableEq

/-- The tokens of a text that begins at a position. -/
def tokens (delimiter : Char) (position : Nat) : List Char → Except SplitFault (List Token)
  | [] => .ok []
  | c :: rest =>
    if c = quote then
      match h : readQuoted rest with
      | none => .error (.unclosed position)
      | some (content, after) => do
        let next := position + 1 + (rest.length - after.length)
        return .quoted content position :: (← tokens delimiter next after)
    else if c = delimiter then do
      return .delimiter position :: (← tokens delimiter (position + 1) rest)
    else if isSpace c then tokens delimiter (position + 1) rest
    else
      let content := rest.takeWhile (· ≠ delimiter)
      do
        return .bare (trimEnd (c :: content)) position ::
          (← tokens delimiter (position + 1 + content.length) (rest.dropWhile (· ≠ delimiter)))
termination_by text => text.length
decreasing_by
  · have := readQuoted_length_lt h
    simp only [List.length_cons]
    omega
  · simp
  · simp
  · have := (List.dropWhile_sublist (fun x => decide (x ≠ delimiter)) (l := rest)).length_le
    simp only [List.length_cons]
    omega

/-- The elements that a list of tokens stands for. -/
def elements : List Token → Except SplitFault (List (List Char))
  | [] => .ok []
  | .quoted content _ :: rest =>
    match rest with
    | [] => .ok [content]
    | .delimiter _ :: _ => do return content :: (← elements rest)
    | next :: _ => .error (.textAfterQuotes next.position)
  | .bare content _ :: rest => do return content :: (← elements rest)
  | .delimiter _ :: rest =>
    match rest with
    | .delimiter _ :: _ => do return [] :: (← elements rest)
    | _ => elements rest

/-- The elements of a text between its delimiters. -/
def split (delimiter : Char) (text : List Char) : Except SplitFault (List (List Char)) := do
  elements (← tokens delimiter 0 text)

end Settings.Text
