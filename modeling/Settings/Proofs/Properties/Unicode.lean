import Settings.Proofs.Properties.Concatenation

/-!
Unicode escapes in properties, and the lines that are refused for them.
-/

namespace Settings.Properties

/-! ### The grammar of escapes -/

/-- The hexadecimal digits of either case. -/
def hexDigits : List Char := "0123456789abcdefABCDEF".toList

/-- The field behind `\u` consists of four hexadecimal digits, which denote a UTF-16 unit. -/
structure HexUnit (field : List Char) (unit : Nat) : Prop where
  four : field.length = 4
  digits : ∀ c ∈ field, c ∈ hexDigits
  value : hexValue? field = some unit

/-- The field consists of a plus sign and three hexadecimal digits. -/
def SignedUnit (field : List Char) (unit : Nat) : Prop :=
  ∃ digits, field = '+' :: digits ∧ digits.length = 3 ∧ hexValue? digits = some unit

/-- The fields that are read: those of four digits, and those with a plus sign. -/
def ReadUnit (field : List Char) (unit : Nat) : Prop := HexUnit field unit ∨ SignedUnit field unit

/-- The first unit of a surrogate pair. -/
def IsHigh (unit : Nat) : Prop := 0xD800 ≤ unit ∧ unit < 0xDC00

/-- The second unit of a surrogate pair. -/
def IsLow (unit : Nat) : Prop := 0xDC00 ≤ unit ∧ unit < 0xE000

/-- What stands behind `\u` for one character: the field of a unit that is no surrogate, or the
field of a high surrogate and at once a second escape with that of a low one. -/
inductive CharacterField (writes : List Char → Nat → Prop) : List Char → Prop where
  | single {field : List Char} {unit : Nat} (written : writes field unit) (notHigh : ¬IsHigh unit)
      (notLow : ¬IsLow unit) : CharacterField writes field
  | pair {first second : List Char} {high low : Nat} (written : writes first high)
      (isHigh : IsHigh high) (written' : writes second low) (isLow : IsLow low) :
      CharacterField writes (first ++ '\\' :: 'u' :: second)

/-- A text whose unicode escapes are well formed, by the fields in which units may be
written. -/
inductive Escaped (writes : List Char → Nat → Prop) : List Char → Prop where
  | nil : Escaped writes []
  | plain {c : Char} {rest : List Char} (noBackslash : c ≠ '\\') (behind : Escaped writes rest) :
      Escaped writes (c :: rest)
  | last : Escaped writes ['\\']
  | letter {letter : Char} {rest : List Char} (notUnicode : letter ≠ 'u')
      (behind : Escaped writes rest) : Escaped writes ('\\' :: letter :: rest)
  | unicode {field rest : List Char} (character : CharacterField writes field)
      (behind : Escaped writes rest) : Escaped writes ('\\' :: 'u' :: (field ++ rest))

/-! ### Reading escapes -/

theorem mem_hexDigits {c : Char} {value : Nat} (digit : Text.hexDigit? c = some value) :
    c ∈ hexDigits := by
  have listed : ∀ code < 0x80, Text.hexDigit? (Char.ofNat code) ≠ none →
      Char.ofNat code ∈ hexDigits := by decide
  have ascii : c.toNat < 0x80 := by
    unfold Text.hexDigit? at digit
    split at digit
    · next decimal =>
        have high : c.toNat ≤ '9'.toNat := (Char.isDigit_iff_toNat.1 decimal).2
        exact Nat.lt_of_le_of_lt high (by decide)
    split at digit
    · next small =>
        have high : c.toNat ≤ 'f'.toNat := (of_decide_eq_true (Bool.and_eq_true_iff.1 small).2)
        exact Nat.lt_of_le_of_lt high (by decide)
    split at digit
    · next capital =>
        have high : c.toNat ≤ 'F'.toNat := (of_decide_eq_true (Bool.and_eq_true_iff.1 capital).2)
        exact Nat.lt_of_le_of_lt high (by decide)
    · cases digit
  have found := listed c.toNat ascii
  rw [Char.ofNat_toNat, digit] at found
  exact found (by rintro ⟨⟩)

/-- Only digits have a value. -/
theorem mem_hexDigits_of_hexValue? {field : List Char} {unit : Nat}
    (value : hexValue? field = some unit) : ∀ c ∈ field, c ∈ hexDigits := by
  induction field using List.reverseRecOn generalizing unit with
  | nil => simp
  | append_singleton front last ih =>
      rw [hexValue?, List.foldl_append] at value
      obtain ⟨lead, before, behind⟩ := Option.bind_eq_some_iff.1 value
      obtain ⟨digit, found, -⟩ := Option.bind_eq_some_iff.1 behind
      intro c member
      rcases List.mem_append.1 member with earlier | final
      · exact ih before c earlier
      · rw [List.mem_singleton.1 final]
        exact mem_hexDigits found

/-- A field that begins with a plus sign is no row of digits. -/
theorem HexUnit.ne_plus {c : Char} {rest : List Char} {unit : Nat}
    (written : HexUnit (c :: rest) unit) : c ≠ '+' := by
  rintro rfl
  exact absurd (written.digits '+' (List.mem_cons_self ..)) (by decide)

/-- A field is read, whatever stands behind it. -/
theorem ReadUnit.readUnit? {field : List Char} {unit : Nat} (written : ReadUnit field unit)
    (rest : List Char) : readUnit? (field ++ rest) = some (unit, rest) := by
  rcases written with hex | ⟨digits, rfl, length, value⟩
  · match field, hex with
    | [a, b, c, d], hex =>
        simp only [Properties.readUnit?, List.cons_append, List.nil_append, if_neg hex.ne_plus,
          hex.value, Option.map_some]
  · match digits, length with
    | [b, c, d], _ =>
        simp only [Properties.readUnit?, List.cons_append, List.nil_append, if_true, value,
          Option.map_some]

/-- What is read as a unit is a field. -/
theorem exists_readUnit {text rest : List Char} {unit : Nat}
    (reads : readUnit? text = some (unit, rest)) :
    ∃ field, ReadUnit field unit ∧ text = field ++ rest := by
  unfold readUnit? at reads
  split at reads
  · next a b c d others =>
      obtain ⟨value, found, same⟩ := Option.map_eq_some_iff.1 reads
      obtain ⟨rfl, rfl⟩ := Prod.mk.inj same
      refine ⟨[a, b, c, d], ?_, rfl⟩
      by_cases plus : a = '+'
      · rw [if_pos plus] at found
        exact .inr ⟨[b, c, d], by rw [plus], rfl, found⟩
      · rw [if_neg plus] at found
        exact .inl ⟨rfl, mem_hexDigits_of_hexValue? found, found⟩
  · cases reads

/-- A character is read from its field in front of any rest. -/
theorem exists_readCharacter?_eq_some_iff {text rest : List Char} :
    (∃ c, readCharacter? text = some (c, rest)) ↔
      ∃ field, CharacterField ReadUnit field ∧ text = field ++ rest := by
  constructor
  · rintro ⟨c, reads⟩
    unfold readCharacter? at reads
    obtain ⟨⟨unit, middle⟩, found, behind⟩ := Option.bind_eq_some_iff.1 reads
    clear reads
    obtain ⟨first, written, rfl⟩ := exists_readUnit found
    dsimp only at behind
    split at behind
    · next isHigh =>
        split at behind
        · next more =>
            obtain ⟨⟨low, last⟩, found', behind'⟩ := Option.bind_eq_some_iff.1 behind
            clear behind
            obtain ⟨second, written', rfl⟩ := exists_readUnit found'
            dsimp only at behind'
            split at behind'
            · next isLow =>
                obtain ⟨-, rfl⟩ := Prod.mk.inj (Option.some.inj behind')
                exact ⟨_, .pair written isHigh written' isLow, by simp⟩
            · cases behind'
        · cases behind
    · next notHigh =>
        split at behind
        · cases behind
        · next notLow =>
            obtain ⟨-, rfl⟩ := Prod.mk.inj (Option.some.inj behind)
            exact ⟨first, .single written notHigh notLow, rfl⟩
  · rintro ⟨field, character, rfl⟩
    cases character with
    | single written notHigh notLow =>
        rw [readCharacter?, written.readUnit?]
        exact ⟨_, (if_neg notHigh).trans (if_neg notLow)⟩
    | pair written isHigh written' isLow =>
        rw [readCharacter?, List.append_assoc, written.readUnit?]
        simp only [Option.bind_eq_bind, Option.bind_some, List.cons_append, written'.readUnit?]
        exact ⟨_, (if_pos isHigh).trans (if_pos isLow)⟩

theorem unescape?_unicode {text rest : List Char} {c : Char}
    (reads : readCharacter? text = some (c, rest)) :
    unescape? ('\\' :: 'u' :: text) = (unescape? rest).map (c :: ·) := by
  rw [unescape?.eq_def]
  simp only [if_true]
  split
  · next none =>
      rw [reads] at none
      cases none
  · next some =>
      rw [reads] at some
      cases some
      rfl

theorem unescape?_malformed {text : List Char} (refused : readCharacter? text = none) :
    unescape? ('\\' :: 'u' :: text) = none := by
  rw [unescape?.eq_def]
  simp only [if_true]
  split
  · rfl
  · next some =>
      rw [refused] at some
      cases some

theorem unescape?_last : unescape? ['\\'] = some [] := by
  rw [unescape?.eq_def]
  rfl

/-- A text is unescaped if the fields of its unicode escapes can be read, and only then. -/
theorem exists_unescape?_eq_some_iff {text : List Char} :
    (∃ content, unescape? text = some content) ↔ Escaped ReadUnit text := by
  constructor
  · induction text using unescape?.induct with
    | case1 => exact fun _ => .nil
    | case2 => exact fun _ => .last
    | case3 text refused =>
        rintro ⟨content, reads⟩
        rw [unescape?_malformed refused] at reads
        cases reads
    | case4 text c rest found _ ih =>
        rintro ⟨content, reads⟩
        rw [unescape?_unicode found] at reads
        obtain ⟨behind, reads, -⟩ := Option.map_eq_some_iff.1 reads
        obtain ⟨field, character, rfl⟩ := exists_readCharacter?_eq_some_iff.1 ⟨c, found⟩
        exact .unicode character (ih ⟨behind, reads⟩)
    | case5 letter rest notUnicode ih =>
        rintro ⟨content, reads⟩
        rw [unescape?_letter notUnicode] at reads
        obtain ⟨behind, reads, -⟩ := Option.map_eq_some_iff.1 reads
        exact .letter notUnicode (ih ⟨behind, reads⟩)
    | case6 c rest noBackslash ih =>
        rintro ⟨content, reads⟩
        rw [unescape?_plain noBackslash] at reads
        obtain ⟨behind, reads, -⟩ := Option.map_eq_some_iff.1 reads
        exact .plain noBackslash (ih ⟨behind, reads⟩)
  · intro escaped
    induction escaped with
    | nil => exact ⟨[], unescape?_nil⟩
    | plain noBackslash _ ih =>
        obtain ⟨content, reads⟩ := ih
        exact ⟨_, by rw [unescape?_plain noBackslash, reads]; rfl⟩
    | last => exact ⟨[], unescape?_last⟩
    | letter notUnicode _ ih =>
        obtain ⟨content, reads⟩ := ih
        exact ⟨_, by rw [unescape?_letter notUnicode, reads]; rfl⟩
    | unicode character _ ih =>
        obtain ⟨content, reads⟩ := ih
        obtain ⟨c, found⟩ := exists_readCharacter?_eq_some_iff.2 ⟨_, character, rfl⟩
        exact ⟨_, by rw [unescape?_unicode found, reads]; rfl⟩

/-! ### Fields of digits only -/

theorem CharacterField.readUnit {field : List Char} (character : CharacterField HexUnit field) :
    CharacterField ReadUnit field := by
  cases character with
  | single written notHigh notLow => exact .single (.inl written) notHigh notLow
  | pair written isHigh written' isLow => exact .pair (.inl written) isHigh (.inl written') isLow

/-- Well-formed escapes are read. -/
theorem Escaped.readUnit {text : List Char} (escaped : Escaped HexUnit text) :
    Escaped ReadUnit text := by
  induction escaped with
  | nil => exact .nil
  | plain noBackslash _ ih => exact .plain noBackslash ih
  | last => exact .last
  | letter notUnicode _ ih => exact .letter notUnicode ih
  | unicode character _ ih => exact .unicode character.readUnit ih

theorem CharacterField.ne_plus {field : List Char} (character : CharacterField HexUnit field) :
    ∃ c others, field = c :: others ∧ c ≠ '+' := by
  have begins : ∀ {first : List Char} {unit : Nat}, HexUnit first unit →
      ∃ c others, first = c :: others ∧ c ≠ '+' := by
    intro first unit written
    match first, written with
    | c :: others, written => exact ⟨c, others, rfl, written.ne_plus⟩
    | [], written => cases written.four
  cases character with
  | single written _ _ => exact begins written
  | pair written _ _ _ =>
      obtain ⟨c, others, rfl, noPlus⟩ := begins written
      exact ⟨c, _, rfl, noPlus⟩

/-- No escape is well formed with a plus sign directly behind it. -/
theorem not_escaped_plus (rest : List Char) : ¬Escaped HexUnit ('\\' :: 'u' :: '+' :: rest) := by
  intro escaped
  generalize whole : '\\' :: 'u' :: '+' :: rest = text at escaped
  cases escaped with
  | nil => cases whole
  | plain noBackslash => exact noBackslash (List.cons.inj whole).1.symm
  | last => cases whole
  | letter notUnicode => exact notUnicode (List.cons.inj (List.cons.inj whole).2).1.symm
  | unicode character =>
      obtain ⟨c, others, rfl, noPlus⟩ := character.ne_plus
      cases whole
      exact noPlus rfl

end Settings.Properties
