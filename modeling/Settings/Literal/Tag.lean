import Settings.ConversionError

/-!
Type tags as they are written on the command line: `int`, `list<duration>`,
`enum(FULL|INCREMENTAL)` and so on, in any case.
-/

namespace Settings.Literal

/-- The text between an opening word, matched without regard to ASCII case, and a
closing character. -/
def stripWrapper? (opening : List Char) (closing : Char) (text : List Char) : Option (List Char) :=
  if (text.take opening.length).map Char.toLower = opening then
    let inner := text.drop opening.length
    if inner.getLast? = some closing then some inner.dropLast else none
  else none

theorem stripWrapper?_length_lt {opening text inner : List Char} {closing : Char}
    (h : stripWrapper? opening closing text = some inner) : inner.length < text.length := by
  unfold stripWrapper? at h
  split at h
  · simp only at h
    split at h
    · next last =>
      cases h
      have : 0 < (text.drop opening.length).length := by
        cases e : text.drop opening.length with
        | nil => simp [e] at last
        | cons => simp
      simp only [List.length_dropLast, List.length_drop] at this ⊢
      omega
    · cases h
  · cases h

theorem length_trim_le (text : List Char) : (Text.trim text).length ≤ text.length := by
  have h₁ : ∀ l : List Char, (Text.trimStart l).length ≤ l.length := fun l =>
    (List.dropWhile_sublist _).length_le
  have h₂ : ∀ l : List Char, (Text.trimEnd l).length ≤ l.length := fun l => by
    have := (List.dropWhile_sublist Text.isSpace (l := l.reverse)).length_le
    simpa [Text.trimEnd] using this
  exact Nat.le_trans (h₂ _) (h₁ _)

/-- The pieces of a text between occurrences of a character; there is at least one. -/
def pieces (separator : Char) : List Char → List (List Char)
  | [] => [[]]
  | c :: rest =>
    if c = separator then [] :: pieces separator rest
    else
      match pieces separator rest with
      | [] => [[c]]
      | piece :: others => (c :: piece) :: others

/-- The members listed between the brackets of an enumeration: trimmed, and blank ones
dropped. -/
def readMembers (text : List Char) : List String :=
  (((pieces '|' text).map Text.trim).filter (!·.isEmpty)).map String.ofList

/-- The tag without parameters that a word in lower case names. -/
def simpleTag? (word : String) : Option Tag :=
  if word = "int" || word = "integer" || word = "int32" then some .int
  else if word = "long" || word = "int64" then some .long
  else if word = "bool" || word = "boolean" then some .bool
  else if word = "float" || word = "float32" then some .float
  else if word = "double" || word = "float64" then some .double
  else if word = "string" || word = "text" then some .text
  else if word = "password" || word = "secret" then some .secret
  else if word = "duration" then some .duration
  else if word = "memory" || word = "memorysize" then some .memorySize
  else if word = "map" then some .map
  else none

/-- A type tag.  The error quotes the innermost text that could not be read. -/
def readTag (text : List Char) : Except ConversionError Tag :=
  let trimmed := Text.trim text
  match h : stripWrapper? "list<".toList '>' trimmed with
  | some inner =>
    have : inner.length < text.length :=
      Nat.lt_of_lt_of_le (stripWrapper?_length_lt h) (length_trim_le text)
    do return .list (← readTag inner)
  | none =>
    match stripWrapper? "enum(".toList ')' trimmed with
    | some inner =>
      let members := readMembers inner
      if members.isEmpty then .error (.unsupported (String.ofList trimmed))
      else .ok (.member ⟨"enum", members⟩)
    | none =>
      match simpleTag? (String.ofList (Text.lower trimmed)) with
      | some tag => .ok tag
      | none => .error (.unsupported (String.ofList trimmed))
termination_by text.length

end Settings.Literal
