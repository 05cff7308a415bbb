import Settings.Text.Digits

/-!
Escapes in the keys and values of properties.

A backslash gives the next character a meaning of its own: four letters stand for
control characters, `u` and four hexadecimal digits stand for a UTF-16 unit, and
any other character stands for itself.  A plus sign may take the place of the
first hexadecimal digit.
-/

namespace Settings.Properties

/-- The number written in hexadecimal digits. -/
def hexValue? (digits : List Char) : Option Nat :=
  digits.foldl (fun value c => do return (← value) * 16 + (← Text.hexDigit? c)) (some 0)

/-- The UTF-16 unit of the four characters after `\u`, and the text after them. -/
def readUnit? : List Char → Option (Nat × List Char)
  | a :: b :: c :: d :: rest =>
    let digits := if a = '+' then [b, c, d] else [a, b, c, d]
    (hexValue? digits).map fun value => (value, rest)
  | _ => none

/-- The character of the units after `\u`, and the text after it.  A high surrogate is
completed by the low surrogate of a second escape that follows at once. -/
def readCharacter? (text : List Char) : Option (Char × List Char) := do
  let (unit, rest) ← readUnit? text
  if 0xD800 ≤ unit ∧ unit < 0xDC00 then
    match rest with
    | '\\' :: 'u' :: more =>
      let (low, rest) ← readUnit? more
      if 0xDC00 ≤ low ∧ low < 0xE000 then
        return (Char.ofNat (0x10000 + (unit - 0xD800) * 0x400 + (low - 0xDC00)), rest)
      else none
    | _ => none
  else if 0xDC00 ≤ unit ∧ unit < 0xE000 then none
  else return (Char.ofNat unit, rest)

theorem readUnit?_length_lt {text rest : List Char} {unit : Nat}
    (h : readUnit? text = some (unit, rest)) : rest.length < text.length := by
  unfold readUnit? at h
  split at h
  · obtain ⟨_, _, same⟩ := Option.map_eq_some_iff.1 h
    obtain ⟨_, rfl⟩ := Prod.mk.inj same
    simp only [List.length_cons]
    omega
  · cases h

theorem readCharacter?_length_lt {text rest : List Char} {c : Char}
    (h : readCharacter? text = some (c, rest)) : rest.length < text.length := by
  unfold readCharacter? at h
  obtain ⟨⟨unit, middle⟩, found, h⟩ := Option.bind_eq_some_iff.1 h
  have shorter := readUnit?_length_lt found
  simp only at h
  split at h
  · split at h
    · obtain ⟨⟨low, last⟩, found', h⟩ := Option.bind_eq_some_iff.1 h
      have shorter' := readUnit?_length_lt found'
      simp only at h
      split at h
      · simp only [Option.pure_def, Option.some.injEq, Prod.mk.injEq] at h
        rw [← h.2]
        simp only [List.length_cons] at shorter
        omega
      · cases h
    · cases h
  · split at h
    · cases h
    · simp only [Option.pure_def, Option.some.injEq, Prod.mk.injEq] at h
      rw [← h.2]
      exact shorter

/-- The character that a backslash and a letter other than `u` stand for. -/
def unescapeLetter (c : Char) : Char :=
  if c = 't' then '\t'
  else if c = 'n' then '\n'
  else if c = 'r' then '\r'
  else if c = 'f' then '\x0c'
  else c

/-- The text that an escaped text stands for, if its unicode escapes are well formed.  A
backslash at the end stands for nothing. -/
def unescape? : List Char → Option (List Char)
  | [] => some []
  | c :: rest =>
    if c = '\\' then
      match rest with
      | [] => some []
      | letter :: after =>
        if letter = 'u' then
          match h : readCharacter? after with
          | none => none
          | some (character, remaining) =>
            have : remaining.length < after.length := readCharacter?_length_lt h
            (unescape? remaining).map (character :: ·)
        else (unescape? after).map (unescapeLetter letter :: ·)
    else (unescape? rest).map (c :: ·)
termination_by text => text.length

/-- The escaped form of a character; `guarded` holds where layout characters and the
marks of comments and separators would be misread. -/
def escapeCharacter (guarded : Bool) (c : Char) : List Char :=
  if c = '\\' then ['\\', '\\']
  else if c = '\t' then ['\\', 't']
  else if c = '\n' then ['\\', 'n']
  else if c = '\r' then ['\\', 'r']
  else if c = '\x0c' then ['\\', 'f']
  else if guarded && [' ', '=', ':', '#', '!'].contains c then ['\\', c]
  else [c]

/-- The escaped form of a key, in which every character is guarded. -/
def escapeKey (text : List Char) : List Char :=
  text.flatMap (escapeCharacter true)

/-- The escaped form of a value, in which only the first character is guarded. -/
def escapeValue : List Char → List Char
  | [] => []
  | c :: rest => escapeCharacter true c ++ rest.flatMap (escapeCharacter false)

end Settings.Properties
