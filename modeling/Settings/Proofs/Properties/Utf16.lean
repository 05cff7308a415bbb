import Settings.Proofs.Properties.Layout
import Settings.Proofs.Properties.Unicode

/-!
Characters written by their UTF-16 units.

In keys and values any character may be written by the escapes of its units instead of the way
in which it is printed.  An escape is read as the character, and since it begins with a
backslash and goes on with a letter and digits only, it neither ends a key nor a line.
-/

namespace Settings.Properties

/-! ### Units and their escapes -/

/-- The UTF-16 units of a character: its number, or a surrogate pair for a number that does not fit
one unit. -/
def utf16 (c : Char) : List Nat :=
  if c.toNat < 0x10000 then [c.toNat]
  else [0xD800 + (c.toNat - 0x10000) / 0x400, 0xDC00 + (c.toNat - 0x10000) % 0x400]

/-- The four hexadecimal digits of a unit, the highest first. -/
def unitDigits (unit : Nat) : List Nat :=
  [unit / 0x1000, unit / 0x100 % 0x10, unit / 0x10 % 0x10, unit % 0x10]

/-- A hexadecimal digit in either case. -/
def WritesDigit (c : Char) (digit : Nat) : Prop :=
  c = digit.digitChar ∨ c = digit.digitChar.toUpper

/-- The field holds the four hexadecimal digits of the unit. -/
def WritesUnit (field : List Char) (unit : Nat) : Prop :=
  List.Forall₂ WritesDigit field (unitDigits unit)

/-- The escape of the unit in a field. -/
def unitEscape (field : List Char) : List Char := '\\' :: 'u' :: field

/-- A form of a character: the printed one, or an escape for each of its units. -/
inductive Spells (guarded : Bool) (c : Char) : List Char → Prop where
  | printed : Spells guarded c (escapeCharacter guarded c)
  | units {fields : List (List Char)} (written : List.Forall₂ WritesUnit fields (utf16 c)) :
      Spells guarded c (fields.flatMap unitEscape)

/-- A text in which every character has one of its forms. -/
inductive SpellsText (guarded : Bool) : List Char → List Char → Prop where
  | nil : SpellsText guarded [] []
  | cons {c : Char} {form text behind : List Char} (first : Spells guarded c form)
      (others : SpellsText guarded text behind) : SpellsText guarded (c :: text) (form ++ behind)

/-- A value in which every character has one of its forms, and the first one is guarded. -/
inductive SpellsValue : List Char → List Char → Prop where
  | nil : SpellsValue [] []
  | cons {c : Char} {form text behind : List Char} (first : Spells true c form)
      (others : SpellsText false text behind) : SpellsValue (c :: text) (form ++ behind)

/-- The units of a character are its number, which is no surrogate, or a pair of surrogates that
make up its number. -/
theorem utf16_cases (c : Char) :
    (utf16 c = [c.toNat] ∧ ¬IsHigh c.toNat ∧ ¬IsLow c.toNat) ∨
      ∃ high low, utf16 c = [high, low] ∧ IsHigh high ∧ IsLow low ∧
        0x10000 + (high - 0xD800) * 0x400 + (low - 0xDC00) = c.toNat := by
  have valid : c.toNat < 0xD800 ∨ 0xDFFF < c.toNat ∧ c.toNat < 0x110000 := c.valid
  rw [utf16]
  by_cases small : c.toNat < 0x10000
  · rw [if_pos small]
    refine .inl ⟨rfl, fun high => ?_, fun low => ?_⟩
    · obtain ⟨least, most⟩ := high
      omega
    · obtain ⟨least, most⟩ := low
      omega
  · rw [if_neg small]
    refine .inr ⟨_, _, rfl, ⟨?_, ?_⟩, ⟨?_, ?_⟩, ?_⟩ <;> omega

/-- A unit has four hexadecimal digits. -/
theorem lt_of_mem_utf16 {c : Char} {unit : Nat} (member : unit ∈ utf16 c) : unit < 0x10000 := by
  have valid : c.toNat < 0xD800 ∨ 0xDFFF < c.toNat ∧ c.toNat < 0x110000 := c.valid
  rw [utf16] at member
  split at member
  · next small =>
      have same : unit = c.toNat := List.mem_singleton.1 member
      omega
  · cases List.mem_pair.1 member with
    | inl same => omega
    | inr same => omega

theorem WritesDigit.hexDigit?_eq {c : Char} {digit : Nat} (written : WritesDigit c digit)
    (small : digit < 0x10) : c ∈ hexDigits ∧ Text.hexDigit? c = some digit := by
  have all : ∀ digit < 0x10,
      (digit.digitChar ∈ hexDigits ∧ Text.hexDigit? digit.digitChar = some digit) ∧
        digit.digitChar.toUpper ∈ hexDigits ∧
          Text.hexDigit? digit.digitChar.toUpper = some digit := by decide
  obtain ⟨lower, upper⟩ := all digit small
  rcases written with rfl | rfl
  · exact lower
  · exact upper

/-- Digits are read from the highest on. -/
theorem hexValue?_of_writes {field : List Char} {digits : List Nat}
    (written : List.Forall₂ WritesDigit field digits) (small : ∀ digit ∈ digits, digit < 0x10) :
    (∀ c ∈ field, c ∈ hexDigits) ∧
      hexValue? field = some (digits.foldl (fun value digit => value * 0x10 + digit) 0) := by
  rw [hexValue?]
  generalize 0 = value
  induction written generalizing value with
  | nil => exact ⟨by simp, rfl⟩
  | cons first _ ih =>
      obtain ⟨small, others⟩ := List.forall_mem_cons.1 small
      obtain ⟨digit, reads⟩ := first.hexDigit?_eq small
      obtain ⟨digits, denotes⟩ := ih others _
      refine ⟨List.forall_mem_cons.2 ⟨digit, digits⟩, ?_⟩
      rw [List.foldl_cons, List.foldl_cons, ← denotes, reads]
      rfl

/-- The digits of a unit denote the unit. -/
theorem WritesUnit.hexUnit {field : List Char} {unit : Nat} (written : WritesUnit field unit)
    (small : unit < 0x10000) : HexUnit field unit := by
  have digits : ∀ digit ∈ unitDigits unit, digit < 0x10 := by
    simp only [unitDigits, List.forall_mem_cons, List.not_mem_nil, IsEmpty.forall_iff,
      implies_true, and_true]
    omega
  have denotes : (unitDigits unit).foldl (fun value digit => value * 0x10 + digit) 0 = unit := by
    simp only [unitDigits, List.foldl_cons, List.foldl_nil]
    omega
  obtain ⟨all, value⟩ := hexValue?_of_writes written digits
  exact ⟨written.length_eq, all, value.trans (congrArg some denotes)⟩

theorem hexUnit_of_writes {fields : List (List Char)} {c : Char}
    (written : List.Forall₂ WritesUnit fields (utf16 c)) :
    List.Forall₂ HexUnit fields (utf16 c) := by
  have small : ∀ unit ∈ utf16 c, unit < 0x10000 := fun unit => lt_of_mem_utf16
  generalize utf16 c = units at written small
  induction written with
  | nil => exact .nil
  | cons first _ ih =>
      obtain ⟨small, others⟩ := List.forall_mem_cons.1 small
      exact .cons (first.hexUnit small) (ih others)

/-- The units of a character are read as the character. -/
theorem readCharacter?_units {c : Char} {fields : List (List Char)}
    (written : List.Forall₂ HexUnit fields (utf16 c)) :
    ∃ behind, fields.flatMap unitEscape = '\\' :: 'u' :: behind ∧
      ∀ rest, readCharacter? (behind ++ rest) = some (c, rest) := by
  rcases utf16_cases c with ⟨units, notHigh, notLow⟩ | ⟨high, low, units, isHigh, isLow, number⟩
  · rw [units] at written
    cases written with
    | @cons field _ _ _ hex others =>
        cases others
        refine ⟨field, by simp [unitEscape], fun rest => ?_⟩
        rw [readCharacter?, ReadUnit.readUnit? (.inl hex)]
        refine (if_neg notHigh).trans ((if_neg notLow).trans ?_)
        rw [Char.ofNat_toNat]
        rfl
  · rw [units] at written
    cases written with
    | @cons first _ _ _ hex others =>
        cases others with
        | @cons second _ _ _ hex' others =>
            cases others
            refine ⟨first ++ '\\' :: 'u' :: second, by simp [unitEscape], fun rest => ?_⟩
            rw [readCharacter?, List.append_assoc, ReadUnit.readUnit? (.inl hex)]
            refine (if_pos isHigh).trans ?_
            simp only [List.cons_append, ReadUnit.readUnit? (.inl hex'), Option.bind_eq_bind,
              Option.bind_some]
            refine (if_pos isLow).trans ?_
            rw [number, Char.ofNat_toNat]
            rfl

theorem unescape?_spells {guarded : Bool} {c : Char} {form : List Char}
    (spells : Spells guarded c form) (rest : List Char) :
    unescape? (form ++ rest) = (unescape? rest).map (c :: ·) := by
  cases spells with
  | printed => exact unescape?_escapeCharacter guarded c rest
  | units written =>
      obtain ⟨behind, form, reads⟩ := readCharacter?_units (hexUnit_of_writes written)
      rw [form]
      exact unescape?_unicode (reads rest)

/-! ### Escapes of units in a line -/

/-- A hexadecimal digit means nothing to the reader of lines and keys. -/
theorem plain_of_mem_hexDigits {c : Char} (digit : c ∈ hexDigits) :
    c ≠ '\n' ∧ c ≠ '\r' ∧ c ≠ '\\' ∧ isBlank c = false ∧ c ∉ ['=', ':'] := by
  have all : hexDigits.all fun c => decide (c ≠ '\n' ∧ c ≠ '\r' ∧ c ≠ '\\' ∧
      isBlank c = false ∧ c ∉ ['=', ':']) := by decide
  exact of_decide_eq_true (List.all_eq_true.1 all c digit)

theorem splitKey_digits {digits : List Char} (all : ∀ c ∈ digits, c ∈ hexDigits)
    (rest : List Char) :
    splitKey (digits ++ rest) = (digits ++ (splitKey rest).1, (splitKey rest).2) := by
  induction digits with
  | nil => rfl
  | cons c digits ih =>
      obtain ⟨first, others⟩ := List.forall_mem_cons.1 all
      obtain ⟨-, -, noBackslash, noBlank, noSeparator⟩ := plain_of_mem_hexDigits first
      rw [List.cons_append, splitKey_plain noBackslash noBlank noSeparator, ih others]
      rfl

/-- An escape of a unit does not end a key. -/
theorem splitKey_unitEscape {field : List Char} {unit : Nat} (hex : HexUnit field unit)
    (rest : List Char) :
    splitKey (unitEscape field ++ rest) =
      (unitEscape field ++ (splitKey rest).1, (splitKey rest).2) := by
  rw [unitEscape, List.cons_append, List.cons_append, splitKey_marked,
    splitKey_digits hex.digits]
  rfl

/-- An escape of a unit ends with a digit, so that it does not continue a line. -/
theorem isContinued_append_unitEscape {field : List Char} {unit : Nat} (hex : HexUnit field unit)
    (text : List Char) : isContinued (text ++ unitEscape field) = false := by
  cases field using List.reverseRecOn with
  | nil => cases hex.four
  | append_singleton field digit _ =>
      have last : digit ∈ hexDigits := hex.digits digit (by simp)
      have split : text ++ unitEscape (field ++ [digit]) =
          (text ++ unitEscape field) ++ [digit] := by
        simp [unitEscape]
      rw [split]
      exact isContinued_append_singleton (plain_of_mem_hexDigits last).2.2.1 _

section

variable {guarded : Bool} {c : Char} {form : List Char}

theorem splitKey_spells (spells : Spells true c form) (rest : List Char) :
    splitKey (form ++ rest) = (form ++ (splitKey rest).1, (splitKey rest).2) := by
  cases spells with
  | printed => exact splitKey_escapeCharacter c rest
  | units written =>
      replace written := hexUnit_of_writes written
      generalize utf16 c = units at written
      induction written with
      | nil => rfl
      | cons hex _ ih =>
          rw [List.flatMap_cons, List.append_assoc, splitKey_unitEscape hex, ih,
            List.append_assoc]

theorem isContinued_append_spells (spells : Spells guarded c form) {text : List Char}
    (even : isContinued text = false) : isContinued (text ++ form) = false := by
  cases spells with
  | printed => exact isContinued_append_escapeCharacter even guarded c
  | units written =>
      replace written := hexUnit_of_writes written
      generalize utf16 c = units at written
      induction written generalizing text with
      | nil => rwa [List.flatMap_nil, List.append_nil]
      | @cons field _ _ _ hex _ ih =>
          rw [List.flatMap_cons, ← List.append_assoc]
          exact ih (isContinued_append_unitEscape hex text)

theorem ne_of_mem_spells (spells : Spells guarded c form) {d : Char} (member : d ∈ form) :
    d ≠ '\n' ∧ d ≠ '\r' := by
  cases spells with
  | printed => exact mem_escapeCharacter member
  | units written =>
      obtain ⟨field, listed, inside⟩ := List.mem_flatMap.1 member
      obtain ⟨unit, -, hex⟩ := exists_of_forall₂_left (hexUnit_of_writes written) listed
      rcases List.mem_cons.1 inside with rfl | inside
      · decide
      rcases List.mem_cons.1 inside with rfl | inside
      · decide
      · have plain := plain_of_mem_hexDigits (hex.digits d inside)
        exact ⟨plain.1, plain.2.1⟩

/-- A guarded form begins with no blank and with no mark. -/
theorem head_spells (spells : Spells true c form) :
    ∃ first rest, form = first :: rest ∧ isBlank first = false ∧
      first ∉ ['=', ':', '#', '!'] := by
  cases spells with
  | printed => exact head_escapeCharacter c
  | units written =>
      obtain ⟨behind, form, -⟩ := readCharacter?_units (hexUnit_of_writes written)
      exact ⟨'\\', _, form, by decide, by decide⟩

end

/-! ### Keys and values -/

section

variable {guarded : Bool} {text form : List Char}

theorem SpellsText.unescape?_eq (spells : SpellsText guarded text form) :
    unescape? form = some text := by
  induction spells with
  | nil => exact unescape?_nil
  | cons first _ ih =>
      rw [unescape?_spells first, ih]
      rfl

theorem SpellsText.ne_of_mem (spells : SpellsText guarded text form) {d : Char}
    (member : d ∈ form) : d ≠ '\n' ∧ d ≠ '\r' := by
  induction spells with
  | nil => cases member
  | cons first _ ih =>
      rcases List.mem_append.1 member with inside | inside
      · exact ne_of_mem_spells first inside
      · exact ih inside

theorem SpellsText.isContinued_append (spells : SpellsText guarded text form) {front : List Char}
    (even : isContinued front = false) : isContinued (front ++ form) = false := by
  induction spells generalizing front with
  | nil => rwa [List.append_nil]
  | cons first _ ih =>
      rw [← List.append_assoc]
      exact ih (isContinued_append_spells first even)

/-- A key ends at the equals sign behind it, however it is spelled. -/
theorem SpellsText.splitKey_append_equals (spells : SpellsText true text form)
    (rest : List Char) : splitKey (form ++ '=' :: rest) = (form, '=' :: rest) := by
  induction spells with
  | nil => exact splitKey_equals rest
  | cons first _ ih => rw [List.append_assoc, splitKey_spells first, ih]

/-- A spelled key with a sign behind it begins with no blank and with no mark of a comment. -/
theorem SpellsText.head_append_equals (spells : SpellsText true text form) (rest : List Char) :
    ∃ first others, form ++ '=' :: rest = first :: others ∧ isBlank first = false ∧
      first ∉ ['#', '!'] := by
  cases spells with
  | nil => exact ⟨'=', rest, rfl, by decide, by decide⟩
  | @cons c form text behind first others =>
      obtain ⟨lead, more, rfl, noBlank, noMark⟩ := head_spells first
      refine ⟨lead, more ++ behind ++ '=' :: rest, by simp, noBlank, fun listed => ?_⟩
      exact noMark (List.mem_append_right ['=', ':'] listed)

theorem SpellsValue.unescape?_eq (spells : SpellsValue text form) :
    unescape? form = some text := by
  cases spells with
  | nil => exact unescape?_nil
  | cons first others =>
      rw [unescape?_spells first, others.unescape?_eq]
      rfl

theorem SpellsValue.ne_of_mem (spells : SpellsValue text form) {d : Char} (member : d ∈ form) :
    d ≠ '\n' ∧ d ≠ '\r' := by
  cases spells with
  | nil => cases member
  | cons first others =>
      rcases List.mem_append.1 member with inside | inside
      · exact ne_of_mem_spells first inside
      · exact others.ne_of_mem inside

theorem SpellsValue.isContinued_append (spells : SpellsValue text form) {front : List Char}
    (even : isContinued front = false) : isContinued (front ++ form) = false := by
  cases spells with
  | nil => rwa [List.append_nil]
  | cons first others =>
      rw [← List.append_assoc]
      exact others.isContinued_append (isContinued_append_spells first even)

/-- Neither a blank nor a separator at the start of a spelled value is lost. -/
theorem SpellsValue.skipSeparator_equals (spells : SpellsValue text form) :
    skipSeparator ('=' :: form) = form := by
  have skipped : skipBlanks form = form := by
    cases spells with
    | nil => rfl
    | cons first others =>
        obtain ⟨lead, more, rfl, noBlank, -⟩ := head_spells first
        exact skipBlanks_cons noBlank _
  exact skipped

end

/-- A line in which every character is spelled in one of its forms is read as the entry. -/
theorem read_of_spells {key value : String} {keyForm valueForm : List Char}
    (keySpells : SpellsText true key.toList keyForm)
    (valueSpells : SpellsValue value.toList valueForm) :
    ∃ table, read (keyForm ++ '=' :: valueForm) = .ok table ∧ table.entries = [(key, value)] := by
  obtain ⟨first, rest, begins, noBlank, noMark⟩ := keySpells.head_append_equals valueForm
  have noFeed : '\n' ∉ keyForm ++ '=' :: valueForm := by
    intro member
    rcases List.mem_append.1 member with inside | inside
    · exact (keySpells.ne_of_mem inside).1 rfl
    rcases List.mem_cons.1 inside with same | inside
    · cases same
    · exact (valueSpells.ne_of_mem inside).1 rfl
  have kept : skipBlanks (keyForm ++ '=' :: valueForm) = keyForm ++ '=' :: valueForm := by
    rw [begins]
    exact skipBlanks_cons noBlank rest
  have counts : isIgnored (skipBlanks (keyForm ++ '=' :: valueForm)) = false := by
    rw [kept, begins]
    simpa [isIgnored] using noMark
  have complete : isContinued (keyForm ++ '=' :: valueForm) = false := by
    have split : keyForm ++ '=' :: valueForm = (keyForm ++ ['=']) ++ valueForm := by simp
    rw [split]
    exact valueSpells.isContinued_append (isContinued_append_singleton (by decide) keyForm)
  have lines : linesOf (keyForm ++ '=' :: valueForm) = [⟨1, keyForm ++ '=' :: valueForm⟩] := by
    rw [linesOf, naturalLines_of_notMem noFeed (by simp),
      @logicalLines_of_complete none _ counts complete, kept]
    rfl
  have reads : readEntry ⟨1, keyForm ++ '=' :: valueForm⟩ = .ok (key, value) := by
    simp only [readEntry, keySpells.splitKey_append_equals, valueSpells.skipSeparator_equals,
      keySpells.unescape?_eq, valueSpells.unescape?_eq, String.ofList_toList]
  refine ⟨Table.ofList [(key, value)], ?_, rfl⟩
  rw [read_eq_map_entries, entries, lines, List.mapM_cons, reads]
  rfl

/-- A surrogate pair in digits of both cases, a guarded blank and an escaped letter. -/
theorem read_of_spells_pair :
    ∃ table, read "k\\uD83d\\ude0A=\\ \\u0061".toList = .ok table ∧
      table.entries = [("k😊", " a")] := by
  have smile : List.Forall₂ WritesUnit ["D83d".toList, "de0A".toList] [0xD83D, 0xDE0A] := by
    simp [WritesUnit, unitDigits, WritesDigit, Nat.digitChar]
  have letter : List.Forall₂ WritesUnit ["0061".toList] [0x61] := by
    simp [WritesUnit, unitDigits, WritesDigit]
  have key : SpellsText true "k😊".toList "k\\uD83d\\ude0A".toList :=
    .cons .printed (.cons (@Spells.units true '😊' _ smile) .nil)
  have value : SpellsValue " a".toList "\\ \\u0061".toList :=
    .cons .printed (.cons (@Spells.units false 'a' _ letter) .nil)
  have split : "k\\uD83d\\ude0A=\\ \\u0061".toList =
      "k\\uD83d\\ude0A".toList ++ '=' :: "\\ \\u0061".toList := by decide
  rw [split]
  exact @read_of_spells "k😊" " a" _ _ key value

end Settings.Properties
