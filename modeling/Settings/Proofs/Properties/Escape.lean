import Settings.Properties.Basic

/-!
Escaped keys and values of properties, and what a reader makes of them.

The printer works character by character, so each statement about an escaped text is
first made for the escaped form of one character in front of any rest: what it stands
for, that it cannot end a key, that it holds no line end, and that it never leaves a
line to be continued.  The statements for whole keys and values follow by induction.
-/

namespace Settings.Properties

/-! ### What escapes stand for -/

@[simp] theorem unescape?_nil : unescape? [] = some [] := by
  rw [unescape?]

theorem unescape?_plain {c : Char} (plain : c ≠ '\\') (rest : List Char) :
    unescape? (c :: rest) = (unescape? rest).map (c :: ·) := by
  rw [unescape?.eq_def]
  simp [plain]

theorem unescape?_letter {letter : Char} (notUnicode : letter ≠ 'u') (rest : List Char) :
    unescape? ('\\' :: letter :: rest) = (unescape? rest).map (unescapeLetter letter :: ·) := by
  rw [unescape?.eq_def]
  simp [notUnicode]

/-- Behind a backslash the letter stands for the character.  It does not begin a Unicode
escape and is no line end, and only the backslash itself is written with a second one. -/
def Marks (letter c : Char) : Prop :=
  unescapeLetter letter = c ∧ letter ≠ 'u' ∧ letter ≠ '\n' ∧ letter ≠ '\r' ∧
    (letter = '\\' → c = '\\')

instance (letter c : Char) : Decidable (Marks letter c) :=
  inferInstanceAs (Decidable (_ ∧ _ ∧ _ ∧ _ ∧ _))

/-- The form in which a character is written: a backslash and a letter that stands for it,
or the character itself, which is then no backslash and no line end and, where it is
guarded, no blank and no mark. -/
inductive WrittenAs (guarded : Bool) (c : Char) : List Char → Prop where
  | marked {letter : Char} (marks : Marks letter c) : WrittenAs guarded c ['\\', letter]
  | plain (noBackslash : c ≠ '\\') (noFeed : c ≠ '\n') (noReturn : c ≠ '\r')
      (noMark : guarded = true → isBlank c = false ∧ c ∉ ['=', ':', '#', '!']) :
      WrittenAs guarded c [c]

/-- The characters with letters of their own, and the marks, which stand for themselves. -/
theorem marks_self :
    Marks '\\' '\\' ∧ Marks 't' '\t' ∧ Marks 'n' '\n' ∧ Marks 'r' '\r' ∧ Marks 'f' '\x0c' ∧
      [' ', '=', ':', '#', '!'].all (fun mark => Marks mark mark) = true := by
  decide

theorem writtenAs_escapeCharacter (guarded : Bool) (c : Char) :
    WrittenAs guarded c (escapeCharacter guarded c) := by
  obtain ⟨backslashes, tabs, feeds, carriages, pages, others⟩ := marks_self
  by_cases backslash : c = '\\'
  · subst backslash
    exact .marked backslashes
  by_cases tab : c = '\t'
  · subst tab
    exact .marked tabs
  by_cases feed : c = '\n'
  · subst feed
    exact .marked feeds
  by_cases carriage : c = '\r'
  · subst carriage
    exact .marked carriages
  by_cases page : c = '\x0c'
  · subst page
    exact .marked pages
  rw [escapeCharacter, if_neg backslash, if_neg tab, if_neg feed, if_neg carriage, if_neg page]
  split
  · next mark =>
      obtain ⟨-, listed⟩ := Bool.and_eq_true_iff.1 mark
      have marks := List.all_eq_true.1 others c (List.contains_iff_mem.1 listed)
      exact .marked (of_decide_eq_true marks)
  · next mark =>
      refine .plain backslash feed carriage (fun guard => ?_)
      simp only [guard, Bool.true_and, List.contains_eq_mem, decide_eq_true_eq,
        List.mem_cons, not_or] at mark
      obtain ⟨space, rest⟩ := mark
      constructor
      · simp [isBlank, space, tab, page]
      · simpa using rest

theorem exists_writtenAs (guarded : Bool) (c : Char) :
    ∃ form, escapeCharacter guarded c = form ∧ WrittenAs guarded c form :=
  ⟨_, rfl, writtenAs_escapeCharacter guarded c⟩

/-- Reading a written character gives the character. -/
theorem unescape?_escapeCharacter (guarded : Bool) (c : Char) (rest : List Char) :
    unescape? (escapeCharacter guarded c ++ rest) = (unescape? rest).map (c :: ·) := by
  obtain ⟨form, equal, written⟩ := exists_writtenAs guarded c
  rw [equal]
  cases written with
  | marked marks =>
      obtain ⟨meaning, notUnicode, -⟩ := marks
      rw [List.cons_append, List.cons_append, List.nil_append, unescape?_letter notUnicode,
        meaning]
  | plain noBackslash _ _ _ => exact unescape?_plain noBackslash rest

theorem unescape?_flatMap (guarded : Bool) (text : List Char) :
    unescape? (text.flatMap (escapeCharacter guarded)) = some text := by
  induction text with
  | nil => simp
  | cons c text ih =>
      rw [List.flatMap_cons, unescape?_escapeCharacter, ih]
      rfl

/-- An escaped key is read as the key. -/
theorem unescape?_escapeKey (text : List Char) : unescape? (escapeKey text) = some text :=
  unescape?_flatMap true text

/-- An escaped value is read as the value. -/
theorem unescape?_escapeValue (text : List Char) : unescape? (escapeValue text) = some text := by
  cases text with
  | nil => simp [escapeValue]
  | cons c rest =>
      rw [escapeValue, unescape?_escapeCharacter, unescape?_flatMap]
      rfl

/-! ### Where a key ends -/

theorem splitKey_marked (letter : Char) (rest : List Char) :
    splitKey ('\\' :: letter :: rest) =
      ('\\' :: letter :: (splitKey rest).1, (splitKey rest).2) := by
  rw [splitKey.eq_def]
  simp

theorem splitKey_plain {c : Char} (noBackslash : c ≠ '\\') (noBlank : isBlank c = false)
    (noSeparator : c ∉ ['=', ':']) (rest : List Char) :
    splitKey (c :: rest) = (c :: (splitKey rest).1, (splitKey rest).2) := by
  simp only [List.mem_cons, List.not_mem_nil, or_false, not_or] at noSeparator
  rw [splitKey.eq_def]
  simp [noBackslash, noBlank, noSeparator]

theorem splitKey_equals (rest : List Char) : splitKey ('=' :: rest) = ([], '=' :: rest) := by
  rw [splitKey.eq_def]
  simp

/-- A written character of a key does not end the key. -/
theorem splitKey_escapeCharacter (c : Char) (rest : List Char) :
    splitKey (escapeCharacter true c ++ rest) =
      (escapeCharacter true c ++ (splitKey rest).1, (splitKey rest).2) := by
  obtain ⟨form, equal, written⟩ := exists_writtenAs true c
  rw [equal]
  cases written with
  | @marked letter => exact splitKey_marked letter rest
  | plain noBackslash _ _ noMark =>
      obtain ⟨noBlank, notListed⟩ := noMark rfl
      have noSeparator : c ∉ ['=', ':'] := by
        intro member
        exact notListed (List.mem_append_left ['#', '!'] member)
      exact splitKey_plain noBackslash noBlank noSeparator rest

/-- An escaped key ends at the separator behind it. -/
theorem splitKey_escapeKey_append (text rest : List Char) :
    splitKey (escapeKey text ++ '=' :: rest) = (escapeKey text, '=' :: rest) := by
  induction text with
  | nil => exact splitKey_equals rest
  | cons c text ih =>
      have form : escapeKey (c :: text) = escapeCharacter true c ++ escapeKey text := rfl
      rw [form, List.append_assoc, splitKey_escapeCharacter, ih]

/-! ### How a written line begins -/

/-- A guarded character begins with no blank and with no mark of a comment. -/
theorem head_escapeCharacter (c : Char) :
    ∃ first rest, escapeCharacter true c = first :: rest ∧ isBlank first = false ∧
      first ∉ ['=', ':', '#', '!'] := by
  obtain ⟨form, equal, written⟩ := exists_writtenAs true c
  rw [equal]
  cases written with
  | marked => exact ⟨'\\', _, rfl, by decide, by decide⟩
  | plain _ _ _ noMark => exact ⟨c, [], rfl, (noMark rfl).1, (noMark rfl).2⟩

/-- Neither a blank nor a separator at the start of a value is lost. -/
theorem skipSeparator_escapeValue (text : List Char) :
    skipSeparator ('=' :: escapeValue text) = escapeValue text := by
  have skipped : skipBlanks (escapeValue text) = escapeValue text := by
    cases text with
    | nil => rfl
    | cons c rest =>
        obtain ⟨first, tail, form, noBlank, -⟩ := head_escapeCharacter c
        simp [escapeValue, form, skipBlanks, noBlank]
  simp [skipSeparator, skipBlanks, isBlank] at skipped ⊢
  exact skipped

end Settings.Properties
