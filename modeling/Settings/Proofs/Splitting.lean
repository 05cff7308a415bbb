import Settings.Coercion
import Settings.Proofs.Trimming

/-!
Escaping and splitting are inverse to each other.

The scanner of `Settings.Text.Split` is first described by one equation for each
kind of token it can meet.  An escaped element followed by the delimiter or by the
end of the text is then exactly one token, so the tokens of a joined text can be
written down (`joinedTokens`), positions included.  Reading elements off that list
is an induction that never sees the scanner again.
-/

namespace Settings.Text

/-! ### The scanner, token by token -/

theorem tokens_nil (delimiter : Char) (position : Nat) :
    tokens delimiter position [] = .ok [] := by
  rw [tokens]

/-- A closed run is one token, and scanning goes on behind its closing quote. -/
theorem tokens_quote_of_readQuoted {delimiter : Char} {position : Nat}
    {rest content after : List Char} (read : readQuoted rest = some (content, after)) :
    tokens delimiter position (quote :: rest) =
      (tokens delimiter (position + 1 + (rest.length - after.length)) after).map
        (.quoted content position :: ·) := by
  rw [tokens, if_pos rfl]
  split
  · next unread =>
    rw [read] at unread
    cases unread
  · next content' after' read' =>
    rw [read] at read'
    cases read'
    rfl

/-- A delimiter is a token of its own, even if it is white space. -/
theorem tokens_delimiter {delimiter : Char} (notQuote : delimiter ≠ quote) (position : Nat)
    (rest : List Char) :
    tokens delimiter position (delimiter :: rest) =
      (tokens delimiter (position + 1) rest).map (.delimiter position :: ·) := by
  rw [tokens, if_neg notQuote, if_pos rfl]
  rfl

/-- Any other character opens an unquoted element, which reaches up to the next
delimiter. -/
theorem tokens_bare {delimiter c : Char} (notQuote : c ≠ quote) (other : c ≠ delimiter)
    (solid : isSpace c = false) (position : Nat) (rest : List Char) :
    tokens delimiter position (c :: rest) =
      (tokens delimiter (position + 1 + (rest.takeWhile (· ≠ delimiter)).length)
        (rest.dropWhile (· ≠ delimiter))).map
        (.bare (trimEnd (c :: rest.takeWhile (· ≠ delimiter))) position :: ·) := by
  rw [tokens, if_neg notQuote, if_neg other, if_neg (by simp [solid])]
  rfl

/-! ### One escaped element -/

/-- The text is empty or begins with the delimiter: what may follow an element. -/
def AtDelimiter (delimiter : Char) (text : List Char) : Prop :=
  ∀ c, text.head? = some c → c = delimiter

theorem atDelimiter_nil (delimiter : Char) : AtDelimiter delimiter [] := by
  intro c head
  cases head

theorem atDelimiter_cons (delimiter : Char) (text : List Char) :
    AtDelimiter delimiter (delimiter :: text) := by
  intro c head
  exact (Option.some.inj head).symm

theorem AtDelimiter.head?_ne_quote {delimiter : Char} {text : List Char}
    (ends : AtDelimiter delimiter text) (notQuote : delimiter ≠ quote) :
    text.head? ≠ some quote := by
  intro head
  exact notQuote (ends quote head).symm

/-- Reading undoes the doubling of quotes, and stops at a quote that is not doubled. -/
theorem readQuoted_doubleQuotes (text : List Char) {rest : List Char}
    (single : rest.head? ≠ some quote) :
    readQuoted (doubleQuotes text ++ quote :: rest) = some (text, rest) := by
  induction text with
  | nil =>
      cases rest with
      | nil => rfl
      | cons next more =>
          have other : next ≠ quote := by simpa using single
          simp [doubleQuotes, readQuoted, other]
  | cons c text ih =>
      by_cases same : c = quote
      · subst same
        simp [doubleQuotes, readQuoted, ih]
      · cases tail : doubleQuotes text ++ quote :: rest with
        | nil => simp at tail
        | cons next more =>
            rw [tail] at ih
            simp [doubleQuotes, same, tail, readQuoted, ih]

/-- The unquoted element in front of a delimiter. -/
theorem takeWhile_append_atDelimiter {delimiter : Char} {text rest : List Char}
    (free : delimiter ∉ text) (ends : AtDelimiter delimiter rest) :
    (text ++ rest).takeWhile (· ≠ delimiter) = text := by
  have inside : ∀ c ∈ text, decide (c ≠ delimiter) = true := by
    intro c member
    exact decide_eq_true (fun same => free (same ▸ member))
  rw [List.takeWhile_append_of_pos inside]
  cases rest with
  | nil => simp
  | cons c rest =>
      have same : c = delimiter := ends c rfl
      simp [same]

/-- What is left behind an unquoted element. -/
theorem dropWhile_append_atDelimiter {delimiter : Char} {text rest : List Char}
    (free : delimiter ∉ text) (ends : AtDelimiter delimiter rest) :
    (text ++ rest).dropWhile (· ≠ delimiter) = rest := by
  have whole := List.takeWhile_append_dropWhile (p := (· ≠ delimiter)) (l := text ++ rest)
  rw [takeWhile_append_atDelimiter free ends] at whole
  exact List.append_cancel_left whole

theorem needsQuotes_eq_false {delimiters text : List Char}
    (plain : needsQuotes delimiters text = false) :
    text ≠ [] ∧ (∀ c ∈ text, c ∉ delimiters) ∧ quote ∉ text ∧ hasBlankEnd text = false := by
  simp only [needsQuotes, Bool.or_eq_false_iff, List.isEmpty_eq_false_iff, List.any_eq_false,
    List.contains_eq_mem, decide_eq_true_eq, decide_eq_false_iff_not] at plain
  obtain ⟨⟨⟨nonempty, free⟩, unquoted⟩, solid⟩ := plain
  exact ⟨nonempty, free, unquoted, solid⟩

/-- The token that an escaped element becomes. -/
def escapedToken (delimiters : List Char) (position : Nat) (item : List Char) : Token :=
  if needsQuotes delimiters item then .quoted item position else .bare item position

/-- An escaped element in front of a delimiter or the end is one token, and scanning
goes on right behind it. -/
theorem tokens_escape_append {delimiter : Char} {delimiters : List Char}
    (notQuote : delimiter ≠ quote) (listed : delimiter ∈ delimiters) (position : Nat)
    (item : List Char) {rest : List Char} (ends : AtDelimiter delimiter rest) :
    tokens delimiter position (escape delimiters item ++ rest) =
      (tokens delimiter (position + (escape delimiters item).length) rest).map
        (escapedToken delimiters position item :: ·) := by
  cases need : needsQuotes delimiters item with
  | true =>
      have read := readQuoted_doubleQuotes item (ends.head?_ne_quote notQuote)
      have split : enquote item ++ rest = quote :: (doubleQuotes item ++ quote :: rest) := by
        simp [enquote]
      have behind : position + 1 + ((doubleQuotes item ++ quote :: rest).length - rest.length) =
          position + (enquote item).length := by
        simp [enquote]
        omega
      rw [escape, if_pos need, escapedToken, if_pos need, split,
        tokens_quote_of_readQuoted read, behind]
  | false =>
      obtain ⟨nonempty, free, unquoted, solid⟩ := needsQuotes_eq_false need
      cases item with
      | nil => exact absurd rfl nonempty
      | cons c more =>
          obtain ⟨solidStart, solidEnd⟩ := hasBlankEnd_eq_false_iff.1 solid
          have other : c ≠ delimiter := by
            intro same
            exact free c (List.mem_cons_self ..) (same ▸ listed)
          have tailFree : delimiter ∉ more := by
            intro member
            exact free delimiter (List.mem_cons_of_mem _ member) listed
          have opens : c ≠ quote := fun same => unquoted (same ▸ List.mem_cons_self ..)
          have behind : position + 1 + more.length = position + (c :: more).length := by
            simp
            omega
          rw [escape, if_neg (by simp [need]), escapedToken, if_neg (by simp [need]),
            List.cons_append, tokens_bare opens other (solidStart c rfl),
            takeWhile_append_atDelimiter tailFree ends, dropWhile_append_atDelimiter tailFree ends,
            trimEnd_of_getLast? solidEnd, behind]

theorem escape_ne_nil (delimiters item : List Char) : escape delimiters item ≠ [] := by
  unfold escape
  split
  · simp [enquote]
  · next plain => exact (needsQuotes_eq_false (by simpa using plain)).1

/-! ### Joined elements -/

/-- Escaped elements with a delimiter between them. -/
def join (delimiter : Char) (delimiters : List Char) (items : List (List Char)) : List Char :=
  [delimiter].intercalate (items.map (escape delimiters))

/-- The tokens of joined elements, the first of which stands at a position. -/
def joinedTokens (delimiters : List Char) (position : Nat) : List (List Char) → List Token
  | [] => []
  | [item] => [escapedToken delimiters position item]
  | item :: next :: items =>
      let ending := position + (escape delimiters item).length
      escapedToken delimiters position item :: .delimiter ending ::
        joinedTokens delimiters (ending + 1) (next :: items)

theorem join_cons_cons (delimiter : Char) (delimiters item next : List Char)
    (items : List (List Char)) :
    join delimiter delimiters (item :: next :: items) =
      escape delimiters item ++ delimiter :: join delimiter delimiters (next :: items) := by
  simp [join, List.intercalate_cons_cons]

/-- Scanning joined elements gives exactly the tokens written down above. -/
theorem tokens_join {delimiter : Char} {delimiters : List Char} (notQuote : delimiter ≠ quote)
    (listed : delimiter ∈ delimiters) (position : Nat) (items : List (List Char)) :
    tokens delimiter position (join delimiter delimiters items) =
      .ok (joinedTokens delimiters position items) := by
  induction items generalizing position with
  | nil => exact tokens_nil delimiter position
  | cons item items ih =>
      cases items with
      | nil =>
          have scanned :=
            tokens_escape_append notQuote listed position item (atDelimiter_nil delimiter)
          rw [List.append_nil, tokens_nil] at scanned
          rw [join, List.map_singleton, List.intercalate_singleton]
          exact scanned
      | cons next items =>
          rw [join_cons_cons,
            tokens_escape_append notQuote listed position item (atDelimiter_cons delimiter _),
            tokens_delimiter notQuote, ih]
          rfl

/-- An element in front of a delimiter is the first element. -/
theorem elements_escapedToken_delimiter (delimiters : List Char) (position ending : Nat)
    (item : List Char) (rest : List Token) :
    elements (escapedToken delimiters position item :: .delimiter ending :: rest) =
      (elements (.delimiter ending :: rest)).map (item :: ·) := by
  unfold escapedToken
  split <;> rfl

/-- A delimiter in front of an element stands for nothing by itself. -/
theorem elements_delimiter_joinedTokens (delimiters : List Char) (ending position : Nat)
    (items : List (List Char)) :
    elements (.delimiter ending :: joinedTokens delimiters position items) =
      elements (joinedTokens delimiters position items) := by
  cases items with
  | nil => rfl
  | cons item items =>
      cases items with
      | nil =>
          simp only [joinedTokens, escapedToken]
          split <;> rfl
      | cons next items =>
          simp only [joinedTokens, escapedToken]
          split <;> rfl

theorem elements_joinedTokens (delimiters : List Char) (position : Nat)
    (items : List (List Char)) :
    elements (joinedTokens delimiters position items) = .ok items := by
  induction items generalizing position with
  | nil => rfl
  | cons item items ih =>
      cases items with
      | nil =>
          simp only [joinedTokens, escapedToken]
          split <;> rfl
      | cons next items =>
          rw [joinedTokens, elements_escapedToken_delimiter, elements_delimiter_joinedTokens, ih]
          rfl

/-- Splitting undoes joining. -/
theorem split_join {delimiter : Char} {delimiters : List Char} (notQuote : delimiter ≠ quote)
    (listed : delimiter ∈ delimiters) (items : List (List Char)) :
    split delimiter (join delimiter delimiters items) = .ok items := by
  unfold split
  rw [tokens_join notQuote listed]
  exact elements_joinedTokens delimiters 0 items

/-- Only the empty list is joined to the empty text. -/
theorem join_eq_nil_iff (delimiter : Char) (delimiters : List Char) (items : List (List Char)) :
    join delimiter delimiters items = [] ↔ items = [] := by
  cases items with
  | nil => simp [join]
  | cons item items =>
      cases items with
      | nil => simp [join, escape_ne_nil]
      | cons next items => simp [join_cons_cons]

end Settings.Text

namespace Settings

/-- Texts escaped and joined, as they are stored. -/
def joinEscaped (delimiter : Char) (delimiters : List Char) (items : List String) : String :=
  (String.singleton delimiter).intercalate
    (items.map fun item => String.ofList (Text.escape delimiters item.toList))

theorem toList_joinEscaped (delimiter : Char) (delimiters : List Char) (items : List String) :
    (joinEscaped delimiter delimiters items).toList =
      Text.join delimiter delimiters (items.map String.toList) := by
  simp [joinEscaped, Text.join, String.toList_intercalate, Function.comp_def]

theorem splitText_eq_ok {delimiter : Char} {text : String} {items : List (List Char)}
    (split : Text.split delimiter text.toList = .ok items) :
    splitText delimiter text = .ok (items.map String.ofList) := by
  rw [splitText, split]

theorem splitText_eq_ok_iff {delimiter : Char} {text : String} {items : List String} :
    splitText delimiter text = .ok items ↔
      Text.split delimiter text.toList = .ok (items.map String.toList) := by
  rw [splitText]
  cases Text.split delimiter text.toList with
  | ok elements =>
      simp only [Except.ok.injEq]
      constructor
      · rintro rfl
        simp [Function.comp_def]
      · rintro rfl
        simp [Function.comp_def]
  | error fault => simp

theorem splitText_eq_error_iff {delimiter : Char} {text : String} {error : ConversionError} :
    splitText delimiter text = .error error ↔
      ∃ fault, error = .malformedEntry text (.quoting fault) ∧
        Text.split delimiter text.toList = .error fault := by
  rw [splitText]
  cases Text.split delimiter text.toList with
  | ok elements => simp
  | error fault =>
      simp only [Except.error.injEq]
      constructor
      · rintro rfl
        exact ⟨fault, rfl, rfl⟩
      · rintro ⟨_, rfl, rfl⟩
        rfl

/-- Splitting gives back the escaped and joined texts. -/
theorem splitText_joinEscaped {delimiter : Char} {delimiters : List Char}
    (notQuote : delimiter ≠ Text.quote) (listed : delimiter ∈ delimiters)
    (items : List String) :
    splitText delimiter (joinEscaped delimiter delimiters items) = .ok items := by
  have split := Text.split_join notQuote listed (items.map String.toList)
  rw [← toList_joinEscaped] at split
  rw [splitText_eq_ok split, List.map_map]
  simp [Function.comp_def]

/-- Splitting is a left inverse of joining, for every delimiter but the quote, and only
the empty list is stored as the empty text. -/
theorem splitText_left_inverse_joinEscaped {delimiter : Char} {delimiters : List Char}
    (notQuote : delimiter ≠ Text.quote) (listed : delimiter ∈ delimiters)
    (items : List String) :
    splitText delimiter (joinEscaped delimiter delimiters items) = .ok items ∧
      (joinEscaped delimiter delimiters items = "" ↔ items = []) := by
  constructor
  · exact splitText_joinEscaped notQuote listed items
  · rw [← String.toList_eq_nil_iff, toList_joinEscaped, Text.join_eq_nil_iff,
      List.map_eq_nil_iff]

/-- A delimiter that is white space, and elements that are empty, blank at an end, or
hold quotes. -/
theorem splitText_left_inverse_joinEscaped_spaces :
    (' ' ≠ Text.quote ∧ ' ' ∈ [',', ' ']) ∧
      joinEscaped ' ' [',', ' '] ["", " a", "it's", "b"] = "'' ' a' 'it''s' b" ∧
      splitText ' ' "'' ' a' 'it''s' b" = .ok ["", " a", "it's", "b"] := by
  have text : joinEscaped ' ' [',', ' '] ["", " a", "it's", "b"] = "'' ' a' 'it''s' b" := by
    decide
  have notQuote : ' ' ≠ Text.quote := by decide
  have listed : ' ' ∈ [',', ' '] := by decide
  have inverse := splitText_left_inverse_joinEscaped notQuote listed ["", " a", "it's", "b"]
  rw [text] at inverse
  exact ⟨⟨notQuote, listed⟩, text, inverse.1⟩

end Settings
