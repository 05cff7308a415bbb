import Settings.Literal.Number
import Settings.Proofs.Digits

/-!
Literals of numbers.

The grammar of literals is given by relations on texts, and the reader accepts the texts of
the grammar and gives what they spell (`readRounded?_eq_some_iff`).  The checks on the letters
of a literal know nothing of the grammar.  On its texts they see what they are meant to see:
`inf` stands in the words for an infinity and in no decimal, and a digit other than zero stands
before the exponent if the decimal is not zero (`Signed.mentionsInfinity_iff`,
`Signed.hasNonzeroMantissa_iff`).
-/

namespace Settings

namespace Text

/-- A text of ASCII is brought to lower case letter by letter. -/
theorem lowerAfter_of_ascii {text : List Char} (ascii : ∀ c ∈ text, c.toNat < 0x80)
    (before : List Char) : lowerAfter before text = text.map Char.toLower := by
  induction text generalizing before with
  | nil => rfl
  | cons c rest ih =>
      have small : c.toNat < 0x80 := ascii c (List.mem_cons_self ..)
      have noSigma : c.toNat ≠ 0x3A3 := by omega
      have others := ih fun d member => ascii d (List.mem_cons_of_mem _ member)
      rw [lowerAfter, if_neg noSigma, lowerChar, if_pos small, others]
      rfl

theorem lower_of_ascii {text : List Char} (ascii : ∀ c ∈ text, c.toNat < 0x80) :
    lower text = text.map Char.toLower :=
  lowerAfter_of_ascii ascii []

theorem digitValue_ne_zero_iff {c : Char} (digit : c.isDigit = true) :
    digitValue c ≠ 0 ↔ '1' ≤ c ∧ c ≤ '9' := by
  have bounds := Char.isDigit_iff_toNat.1 digit
  have low : 48 ≤ c.toNat := bounds.1
  have high : c.toNat ≤ 57 := bounds.2
  have one : '1' ≤ c ↔ 49 ≤ c.toNat := Iff.rfl
  have nine : c ≤ '9' ↔ c.toNat ≤ 57 := Iff.rfl
  have value : digitValue c = c.toNat - 48 := rfl
  rw [value, one, nine]
  omega

/-- Digits show a number other than zero if one of them does. -/
theorem digitsValue_ne_zero_iff {digits : List Char} (numeric : ∀ c ∈ digits, c.isDigit = true) :
    digitsValue digits ≠ 0 ↔ ∃ c ∈ digits, '1' ≤ c ∧ c ≤ '9' := by
  induction digits using List.reverseRecOn with
  | nil => simp [digitsValue]
  | append_singleton front last ih =>
      have before := ih fun c member => numeric c (List.mem_append_left _ member)
      have digit := numeric last (List.mem_append_right _ (List.mem_singleton_self last))
      rw [digitsValue_append_singleton]
      simp only [List.mem_append, List.mem_singleton, or_and_right, exists_or, exists_eq_left,
        ← before, ← digitValue_ne_zero_iff digit]
      omega

end Text

namespace Literal

open Text

/-! ### The grammar -/

/-- A run of decimal digits. -/
structure IsNumeric (digits : List Char) : Prop where
  counted : digits ≠ []
  numeric : ∀ c ∈ digits, c.isDigit = true

/-- The integer that a text denotes, which consists of decimal digits behind an optional
sign. -/
inductive Denotes : List Char → Int → Prop where
  | unsigned {digits : List Char} (run : IsNumeric digits) :
      Denotes digits (Text.digitsValue digits)
  | plus {digits : List Char} (run : IsNumeric digits) :
      Denotes ('+' :: digits) (Text.digitsValue digits)
  | minus {digits : List Char} (run : IsNumeric digits) :
      Denotes ('-' :: digits) (-(Text.digitsValue digits : Int))

/-- The digits of a decimal without the point, which may stand among them or at either end,
and how many of them stand behind it. -/
inductive Figures : List Char → List Char → Nat → Prop where
  | whole {digits : List Char} (run : IsNumeric digits) : Figures digits digits 0
  | pointed {whole places : List Char} (run : IsNumeric (whole ++ places)) :
      Figures (whole ++ '.' :: places) (whole ++ places) places.length

/-- The exponent of a decimal, which is an integer behind a letter. -/
inductive Scales : List Char → Int → Prop where
  | absent : Scales [] 0
  | marked {mark : Char} {text : List Char} {n : Int} (letter : mark = 'e' ∨ mark = 'E')
      (denotes : Denotes text n) : Scales (mark :: text) n

/-- What a text without a sign spells: one of the words in any case, or a decimal. -/
inductive Spelled : List Char → Numeral → Prop where
  | infinite {text : List Char}
      (word : text.map Char.toLower = "inf".toList ∨ text.map Char.toLower = "infinity".toList) :
      Spelled text .infinite
  | nan {text : List Char} (word : text.map Char.toLower = "nan".toList) : Spelled text .nan
  | decimal {front digits back : List Char} {places : Nat} {exponent : Int}
      (figures : Figures front digits places) (scales : Scales back exponent) :
      Spelled (front ++ back) (.decimal ⟨digitsValue digits, exponent - places⟩)

/-- A sign, if there is one, and whether it is a minus. -/
inductive Sign : List Char → Bool → Prop where
  | none : Sign [] false
  | plus : Sign ['+'] false
  | minus : Sign ['-'] true

/-- What a literal spells, and whether behind a minus. -/
inductive Signed : List Char → Bool → Numeral → Prop where
  | intro {lead text : List Char} {negative : Bool} {numeral : Numeral}
      (sign : Sign lead negative) (spelled : Spelled text numeral) :
      Signed (lead ++ text) negative numeral

/-! ### Signs -/

section

variable {digits : List Char} {n : Int}

theorem not_denotes_nil : ¬Denotes [] n := by
  intro denotes
  cases denotes with
  | unsigned run => exact run.counted rfl

theorem denotes_minus_iff :
    Denotes ('-' :: digits) n ↔ IsNumeric digits ∧ -(Text.digitsValue digits : Int) = n := by
  constructor
  · intro denotes
    cases denotes with
    | unsigned run => cases run.numeric '-' (List.mem_cons_self ..)
    | minus run => exact ⟨run, rfl⟩
  · rintro ⟨run, rfl⟩
    exact .minus run

theorem denotes_plus_iff :
    Denotes ('+' :: digits) n ↔ IsNumeric digits ∧ (Text.digitsValue digits : Int) = n := by
  constructor
  · intro denotes
    cases denotes with
    | unsigned run => cases run.numeric '+' (List.mem_cons_self ..)
    | plus run => exact ⟨run, rfl⟩
  · rintro ⟨run, rfl⟩
    exact .plus run

theorem denotes_unsigned_iff {c : Char} (noMinus : c ≠ '-') (noPlus : c ≠ '+') :
    Denotes (c :: digits) n ↔
      IsNumeric (c :: digits) ∧ (Text.digitsValue (c :: digits) : Int) = n := by
  constructor
  · intro denotes
    cases denotes with
    | unsigned run => exact ⟨run, rfl⟩
    | plus => exact absurd rfl noPlus
    | minus => exact absurd rfl noMinus
  · rintro ⟨run, rfl⟩
    exact .unsigned run

theorem splitSign_cons {c : Char} (noMinus : c ≠ '-') (noPlus : c ≠ '+') (rest : List Char) :
    splitSign (c :: rest) = (false, c :: rest) := by
  unfold splitSign
  split
  · next minus => exact absurd (List.cons.inj minus).1 noMinus
  · next plus => exact absurd (List.cons.inj plus).1 noPlus
  · rfl

/-- The integer is read off the text by splitting the sign from the digits. -/
theorem denotes_iff_splitSign {text : List Char} :
    Denotes text n ↔ IsNumeric (splitSign text).2 ∧
      (if (splitSign text).1 then -(digitsValue (splitSign text).2 : Int)
        else digitsValue (splitSign text).2) = n := by
  cases text with
  | nil => exact iff_of_false not_denotes_nil fun read => read.1.counted rfl
  | cons c rest =>
      by_cases minus : c = '-'
      · subst minus
        exact denotes_minus_iff
      by_cases plus : c = '+'
      · subst plus
        exact denotes_plus_iff
      rw [splitSign_cons minus plus]
      exact denotes_unsigned_iff minus plus

/-- What is split from a text is its sign. -/
theorem exists_sign_splitSign (text : List Char) :
    ∃ lead, lead ++ (splitSign text).2 = text ∧ Sign lead (splitSign text).1 := by
  cases text with
  | nil => exact ⟨[], rfl, .none⟩
  | cons c rest =>
      by_cases minus : c = '-'
      · subst minus
        exact ⟨['-'], rfl, .minus⟩
      by_cases plus : c = '+'
      · subst plus
        exact ⟨['+'], rfl, .plus⟩
      rw [splitSign_cons minus plus]
      exact ⟨[], rfl, .none⟩

end

/-! ### Decimals -/

theorem readExponent?_cons (c : Char) (rest : List Char) :
    readExponent? (c :: rest) =
      if c = 'e' || c = 'E' then
        if (splitSign rest).2.isEmpty || !(splitSign rest).2.all Char.isDigit then none
        else some (if (splitSign rest).1 then -(digitsValue (splitSign rest).2 : Int)
          else digitsValue (splitSign rest).2)
      else none :=
  rfl

theorem isNumeric_iff {digits : List Char} :
    IsNumeric digits ↔ ¬(digits.isEmpty || !digits.all Char.isDigit) = true := by
  rw [Bool.or_eq_true, not_or, List.isEmpty_iff, Bool.not_eq_true', Bool.not_eq_false,
    List.all_eq_true]
  exact ⟨fun run => ⟨run.counted, run.numeric⟩, fun run => ⟨run.1, run.2⟩⟩

theorem readExponent?_eq_some_iff {text : List Char} {exponent : Int} :
    readExponent? text = some exponent ↔ Scales text exponent := by
  cases text with
  | nil =>
      constructor
      · rintro ⟨⟩
        exact .absent
      · rintro ⟨⟩
        rfl
  | cons mark rest =>
      have letter : (decide (mark = 'e') || decide (mark = 'E')) = true ↔
          mark = 'e' ∨ mark = 'E' := by
        simp
      have marked : Scales (mark :: rest) exponent ↔
          (mark = 'e' ∨ mark = 'E') ∧ Denotes rest exponent := by
        constructor
        · rintro ⟨⟩
          exact ⟨‹_›, ‹_›⟩
        · rintro ⟨letter, denotes⟩
          exact .marked letter denotes
      rw [readExponent?_cons, marked, denotes_iff_splitSign, isNumeric_iff]
      split
      · next hit =>
          split
          · next empty => exact iff_of_false (by simp) fun read => read.2.1 empty
          · next run =>
              rw [Option.some.injEq]
              exact ⟨fun same => ⟨letter.1 hit, run, same⟩, fun read => read.2.2⟩
      · next miss => exact iff_of_false (by simp) fun read => miss (letter.2 read.1)

/-- The digits behind a point that begins the text, and what follows them. -/
def splitPlaces : List Char → List Char × List Char
  | '.' :: rest => (rest.takeWhile Char.isDigit, rest.dropWhile Char.isDigit)
  | rest => ([], rest)

theorem splitPlaces_point (rest : List Char) :
    splitPlaces ('.' :: rest) = (rest.takeWhile Char.isDigit, rest.dropWhile Char.isDigit) :=
  rfl

theorem splitPlaces_of_head? {text : List Char} (noPoint : text.head? ≠ some '.') :
    splitPlaces text = ([], text) := by
  unfold splitPlaces
  split
  · exact absurd rfl noPoint
  · rfl

theorem readDecimal?_eq (text : List Char) :
    readDecimal? text =
      let whole := text.takeWhile Char.isDigit
      let places := splitPlaces (text.dropWhile Char.isDigit)
      if whole.isEmpty && places.1.isEmpty then none
      else (readExponent? places.2).map fun exponent =>
        ⟨digitsValue (whole ++ places.1), exponent - places.1.length⟩ :=
  rfl

/-- An exponent begins with its letter. -/
theorem Scales.head? {text : List Char} {exponent : Int} (scales : Scales text exponent) {c : Char}
    (first : text.head? = some c) : c = 'e' ∨ c = 'E' := by
  cases scales with
  | absent => cases first
  | marked letter denotes =>
      cases first
      exact letter

theorem Scales.isDigit_head? {text : List Char} {exponent : Int} (scales : Scales text exponent)
    (c : Char) (first : text.head? = some c) : c.isDigit = false := by
  rcases scales.head? first with rfl | rfl <;> rfl

/-- The reader splits a decimal at its point and in front of its exponent. -/
theorem readDecimal?_of_figures {front digits back : List Char} {places : Nat} {exponent : Int}
    (figures : Figures front digits places) (scales : Scales back exponent) :
    readDecimal? (front ++ back) = some ⟨digitsValue digits, exponent - places⟩ := by
  have reads := readExponent?_eq_some_iff.2 scales
  rw [readDecimal?_eq]
  cases figures with
  | whole run =>
      have noPoint : back.head? ≠ some '.' := by
        intro point
        rcases scales.head? point with letter | letter <;> cases letter
      rw [takeWhile_isDigit_append run.numeric scales.isDigit_head?,
        dropWhile_isDigit_append run.numeric scales.isDigit_head?, splitPlaces_of_head? noPoint]
      simp [run.counted, reads]
  | @pointed whole behind run =>
      have numericWhole : ∀ c ∈ whole, c.isDigit = true :=
        fun c member => run.numeric c (List.mem_append_left _ member)
      have numericBehind : ∀ c ∈ behind, c.isDigit = true :=
        fun c member => run.numeric c (List.mem_append_right _ member)
      have point : ∀ c, ('.' :: (behind ++ back)).head? = some c → c.isDigit = false := by
        rintro c ⟨⟩
        rfl
      have counted := run.counted
      rw [ne_eq, List.append_eq_nil_iff] at counted
      rw [List.append_assoc, List.cons_append, takeWhile_isDigit_append numericWhole point,
        dropWhile_isDigit_append numericWhole point, splitPlaces_point,
        takeWhile_isDigit_append numericBehind scales.isDigit_head?,
        dropWhile_isDigit_append numericBehind scales.isDigit_head?]
      simp [counted, reads]

theorem isNumeric_append {whole places : List Char}
    (counted : ¬(whole.isEmpty && places.isEmpty) = true)
    (numericWhole : ∀ c ∈ whole, c.isDigit = true)
    (numericPlaces : ∀ c ∈ places, c.isDigit = true) : IsNumeric (whole ++ places) where
  counted empty := by
    obtain ⟨rfl, rfl⟩ := List.append_eq_nil_iff.1 empty
    exact counted rfl
  numeric c member := (List.mem_append.1 member).elim (numericWhole c) (numericPlaces c)

theorem readDecimal?_eq_some_iff {text : List Char} {value : Decimal} :
    readDecimal? text = some value ↔ Spelled text (.decimal value) := by
  constructor
  · intro read
    rw [readDecimal?_eq] at read
    dsimp only at read
    split at read
    · cases read
    next counted =>
    obtain ⟨exponent, reads, rfl⟩ := Option.map_eq_some_iff.1 read
    have scales := readExponent?_eq_some_iff.1 reads
    have cut := List.takeWhile_append_dropWhile (p := Char.isDigit) (l := text)
    -- Behind the whole digits stands a point with its places, or the exponent at once.
    by_cases point : (text.dropWhile Char.isDigit).head? = some '.'
    · obtain ⟨rest, behind⟩ := List.head?_eq_some_iff.1 point
      have cutBehind := List.takeWhile_append_dropWhile (p := Char.isDigit) (l := rest)
      rw [behind, splitPlaces_point] at counted scales ⊢
      rw [behind] at cut
      have run := isNumeric_append counted (fun _ => isDigit_of_mem_takeWhile)
        (fun _ => isDigit_of_mem_takeWhile)
      have spelled := Spelled.decimal (.pointed run) scales
      rwa [List.append_assoc, List.cons_append, cutBehind, cut] at spelled
    · rw [splitPlaces_of_head? point] at counted scales ⊢
      have run := isNumeric_append counted (fun _ => isDigit_of_mem_takeWhile) (by simp)
      have spelled := Spelled.decimal (.whole run) scales
      rwa [List.append_nil, cut, ← List.append_nil (text.takeWhile Char.isDigit)] at spelled
  · intro spelled
    cases spelled with
    | decimal figures scales => exact readDecimal?_of_figures figures scales

/-! ### Words and decimals -/

/-- A decimal begins with a digit or with its point. -/
theorem Figures.exists_eq_cons {front digits : List Char} {places : Nat}
    (figures : Figures front digits places) :
    ∃ c rest, front = c :: rest ∧ (c.isDigit = true ∨ c = '.') := by
  cases figures with
  | whole run =>
      obtain ⟨c, rest, rfl⟩ := List.exists_cons_of_ne_nil run.counted
      exact ⟨c, rest, rfl, .inl (run.numeric c (List.mem_cons_self ..))⟩
  | @pointed whole behind run =>
      cases whole with
      | nil => exact ⟨'.', behind, rfl, .inr rfl⟩
      | cons c more =>
          exact ⟨c, more ++ '.' :: behind, rfl, .inl (run.numeric c (List.mem_cons_self ..))⟩

/-- What begins with a digit or with a point is none of the words. -/
theorem readNumeral?_cons {c : Char} (solid : c.isDigit = true ∨ c = '.') (rest : List Char) :
    readNumeral? (c :: rest) = (readDecimal? (c :: rest)).map .decimal := by
  have same : c.toLower = c := by
    rcases solid with digit | rfl
    · exact toLower_of_isDigit digit
    · rfl
  have notLetter : ∀ letter : Char, letter.isDigit = false → letter ≠ '.' →
      c.toLower ≠ letter := by
    rintro letter noDigit noPoint rfl
    rw [same] at noDigit noPoint
    rcases solid with digit | point
    · rw [digit] at noDigit
      cases noDigit
    · exact noPoint point
  simp [readNumeral?, notLetter 'i' rfl (by decide), notLetter 'n' rfl (by decide)]

theorem readNumeral?_eq_some_iff {text : List Char} {numeral : Numeral} :
    readNumeral? text = some numeral ↔ Spelled text numeral := by
  constructor
  · intro read
    unfold readNumeral? at read
    dsimp only at read
    split at read
    · next word =>
        cases read
        rw [Bool.or_eq_true, decide_eq_true_eq, decide_eq_true_eq] at word
        exact .infinite word
    split at read
    · next word =>
        cases read
        exact .nan word
    · obtain ⟨value, decimal, rfl⟩ := Option.map_eq_some_iff.1 read
      exact readDecimal?_eq_some_iff.1 decimal
  · intro spelled
    have decimal : ∀ {value}, Spelled text (.decimal value) → readDecimal? text = some value :=
      readDecimal?_eq_some_iff.2
    cases spelled with
    | infinite word => rcases word with word | word <;> simp [readNumeral?, word]
    | nan word => simp [readNumeral?, word]
    | decimal figures scales =>
        obtain ⟨c, rest, rfl, solid⟩ := figures.exists_eq_cons
        rw [List.cons_append, readNumeral?_cons solid, ← List.cons_append,
          decimal (.decimal figures scales)]
        rfl

/-- No numeral begins with a sign. -/
theorem Spelled.exists_eq_cons {text : List Char} {numeral : Numeral}
    (spelled : Spelled text numeral) : ∃ c rest, text = c :: rest ∧ c ≠ '-' ∧ c ≠ '+' := by
  have letter : ∀ first more, text.map Char.toLower = first :: more → first ≠ '-' → first ≠ '+' →
      ∃ c rest, text = c :: rest ∧ c ≠ '-' ∧ c ≠ '+' := by
    intro first more word noMinus noPlus
    cases text with
    | nil => cases word
    | cons c rest =>
        obtain ⟨rfl, -⟩ := List.cons.inj word
        refine ⟨c, rest, rfl, ?_, ?_⟩
        · rintro rfl
          exact noMinus rfl
        · rintro rfl
          exact noPlus rfl
  cases spelled with
  | infinite word => rcases word with word | word <;> exact letter _ _ word (by decide) (by decide)
  | nan word => exact letter _ _ word (by decide) (by decide)
  | decimal figures scales =>
      obtain ⟨c, rest, rfl, solid⟩ := figures.exists_eq_cons
      refine ⟨c, _, rfl, ?_, ?_⟩
      · rintro rfl
        rcases solid with digit | point
        · cases digit
        · cases point
      · rintro rfl
        rcases solid with digit | point
        · cases digit
        · cases point

/-- The sign of a literal is what is split from it. -/
theorem Spelled.splitSign_append {lead text : List Char} {negative : Bool} {numeral : Numeral}
    (spelled : Spelled text numeral) (sign : Sign lead negative) :
    splitSign (lead ++ text) = (negative, text) := by
  cases sign with
  | none =>
      obtain ⟨c, rest, rfl, noMinus, noPlus⟩ := spelled.exists_eq_cons
      exact splitSign_cons noMinus noPlus rest
  | plus => rfl
  | minus => rfl

/-- A text is split into a sign and a numeral that can be read just if it is a literal. -/
theorem signed_iff {text : List Char} {negative : Bool} {numeral : Numeral} :
    Signed text negative numeral ↔
      (splitSign text).1 = negative ∧ readNumeral? (splitSign text).2 = some numeral := by
  constructor
  · rintro ⟨sign, spelled⟩
    rw [spelled.splitSign_append sign]
    exact ⟨rfl, readNumeral?_eq_some_iff.2 spelled⟩
  · rintro ⟨rfl, read⟩
    obtain ⟨lead, split, sign⟩ := exists_sign_splitSign text
    have signed := Signed.intro sign (readNumeral?_eq_some_iff.1 read)
    rwa [split] at signed

/-- The reader accepts the literals, and rounds what they spell. -/
theorem readRounded?_eq_some_iff {format : Format} {text : List Char} {value : Binary format} :
    readRounded? text = some value ↔
      ∃ negative numeral, Signed text negative numeral ∧ roundNumeral negative numeral = value := by
  have read : (readRounded? text : Option (Binary format)) =
      (readNumeral? (splitSign text).2).map (roundNumeral (splitSign text).1) :=
    rfl
  rw [read, Option.map_eq_some_iff]
  constructor
  · rintro ⟨numeral, found, rfl⟩
    exact ⟨_, numeral, signed_iff.2 ⟨rfl, found⟩, rfl⟩
  · rintro ⟨negative, numeral, signed, rfl⟩
    obtain ⟨rfl, found⟩ := signed_iff.1 signed
    exact ⟨numeral, found, rfl⟩

/-! ### The letters of literals -/

/-- The checker finds the part just if it stands in the text. -/
theorem holds_iff_isInfix {part text : List Char} : holds part text = true ↔ part <:+: text := by
  induction text with
  | nil => rw [holds, List.isEmpty_iff, List.infix_nil]
  | cons c rest ih =>
      rw [holds, Bool.or_eq_true, List.isPrefixOf_iff_prefix, ih, List.infix_cons_iff]

/-- The characters of decimals. -/
def IsDecimalChar (c : Char) : Prop := c.isDigit = true ∨ c ∈ ['.', '+', '-', 'e', 'E']

theorem IsDecimalChar.toNat_lt {c : Char} (char : IsDecimalChar c) : c.toNat < 0x80 := by
  rcases char with digit | other
  · have high : c.toNat ≤ 57 := (Char.isDigit_iff_toNat.1 digit).2
    omega
  · simp only [List.mem_cons, List.not_mem_nil, or_false] at other
    rcases other with rfl | rfl | rfl | rfl | rfl <;> decide

theorem IsDecimalChar.toLower_ne {c : Char} (char : IsDecimalChar c) : c.toLower ≠ 'i' := by
  rcases char with digit | other
  · rw [toLower_of_isDigit digit]
    rintro rfl
    cases digit
  · simp only [List.mem_cons, List.not_mem_nil, or_false] at other
    rcases other with rfl | rfl | rfl | rfl | rfl <;> decide

theorem Sign.eq_or_of_mem {lead : List Char} {negative : Bool} (sign : Sign lead negative)
    {c : Char} (member : c ∈ lead) : c = '+' ∨ c = '-' := by
  cases sign with
  | none => cases member
  | plus => exact .inl (List.mem_singleton.1 member)
  | minus => exact .inr (List.mem_singleton.1 member)

theorem Sign.isDecimalChar {lead : List Char} {negative : Bool} (sign : Sign lead negative) :
    ∀ c ∈ lead, IsDecimalChar c := by
  intro c member
  rcases sign.eq_or_of_mem member with rfl | rfl <;> exact .inr (by decide)

theorem Denotes.isDecimalChar {text : List Char} {n : Int} (denotes : Denotes text n) :
    ∀ c ∈ text, IsDecimalChar c := by
  intro c member
  cases denotes with
  | unsigned run => exact .inl (run.numeric c member)
  | plus run =>
      rcases List.mem_cons.1 member with rfl | digit
      · exact .inr (by decide)
      · exact .inl (run.numeric c digit)
  | minus run =>
      rcases List.mem_cons.1 member with rfl | digit
      · exact .inr (by decide)
      · exact .inl (run.numeric c digit)

theorem Figures.mem_iff {front digits : List Char} {places : Nat}
    (figures : Figures front digits places) {c : Char} (noPoint : c ≠ '.') :
    c ∈ front ↔ c ∈ digits := by
  cases figures with
  | whole run => exact Iff.rfl
  | pointed run => simp [noPoint]

theorem Figures.isDigit {front digits : List Char} {places : Nat}
    (figures : Figures front digits places) : ∀ c ∈ digits, c.isDigit = true := by
  cases figures with
  | whole run => exact run.numeric
  | pointed run => exact run.numeric

theorem Figures.isDecimalChar {front digits : List Char} {places : Nat}
    (figures : Figures front digits places) : ∀ c ∈ front, IsDecimalChar c := by
  intro c member
  by_cases point : c = '.'
  · subst point
    exact .inr (by decide)
  · exact .inl (figures.isDigit c ((figures.mem_iff point).1 member))

theorem Scales.isDecimalChar {text : List Char} {exponent : Int} (scales : Scales text exponent) :
    ∀ c ∈ text, IsDecimalChar c := by
  intro c member
  cases scales with
  | absent => cases member
  | marked letter denotes =>
      rcases List.mem_cons.1 member with rfl | inside
      · rcases letter with rfl | rfl <;> exact .inr (by decide)
      · exact denotes.isDecimalChar c inside

theorem Spelled.isDecimalChar {text : List Char} {value : Decimal}
    (spelled : Spelled text (.decimal value)) : ∀ c ∈ text, IsDecimalChar c := by
  cases spelled with
  | decimal figures scales =>
      intro c member
      exact (List.mem_append.1 member).elim (figures.isDecimalChar c) (scales.isDecimalChar c)

/-- In ASCII, the letters `inf` stand in the text if they stand in its small letters. -/
theorem mentionsInfinity_iff {text : List Char} (ascii : ∀ c ∈ text, c.toNat < 0x80) :
    mentionsInfinity text = true ↔ "inf".toList <:+: text.map Char.toLower := by
  rw [mentionsInfinity, holds_iff_isInfix, lower_of_ascii ascii]

theorem toNat_lt_of_toLower {c : Char} (ascii : c.toLower.toNat < 0x80) : c.toNat < 0x80 := by
  delta Char.toLower at ascii
  split at ascii
  · next upper =>
      have high : c.toNat ≤ 90 := UInt32.le_iff_toNat_le.1 upper.2
      omega
  · exact ascii

/-- A word in any case consists of letters of ASCII. -/
theorem ascii_of_map_toLower {text word : List Char} (same : text.map Char.toLower = word)
    (ascii : (word.all fun c => c.toNat < 0x80) = true) : ∀ c ∈ text, c.toNat < 0x80 := by
  intro c member
  apply toNat_lt_of_toLower
  exact of_decide_eq_true (List.all_eq_true.1 ascii _ (same ▸ List.mem_map_of_mem member))

/-- A word behind a sign mentions an infinity if it does so alone. -/
theorem mentionsInfinity_word {lead text word : List Char} {negative : Bool}
    (sign : Sign lead negative) (same : text.map Char.toLower = word)
    (ascii : (word.all fun c => c.toNat < 0x80) = true) :
    mentionsInfinity (lead ++ text) = true ↔ "inf".toList <:+: lead ++ word := by
  have folded : lead.map Char.toLower = lead := by
    cases sign <;> rfl
  rw [mentionsInfinity_iff, List.map_append, folded, same]
  intro c member
  rcases List.mem_append.1 member with before | inside
  · exact (sign.isDecimalChar c before).toNat_lt
  · exact ascii_of_map_toLower same ascii c inside

/-- Of the literals, those for an infinity have its letters. -/
theorem Signed.mentionsInfinity_iff {text : List Char} {negative : Bool} {numeral : Numeral}
    (signed : Signed text negative numeral) :
    mentionsInfinity text = true ↔ numeral = .infinite := by
  obtain @⟨lead, _, _, _, sign, spelled⟩ := signed
  cases spelled with
  | infinite word =>
      refine iff_of_true ?_ rfl
      rcases word with word | word
      · rw [mentionsInfinity_word sign word (by decide)]
        exact ⟨lead, [], by simp⟩
      · rw [mentionsInfinity_word sign word (by decide)]
        exact ⟨lead, "inity".toList, by simp⟩
  | nan word =>
      refine iff_of_false ?_ (by rintro ⟨⟩)
      rw [mentionsInfinity_word sign word (by decide), ← holds_iff_isInfix]
      cases sign <;> decide
  | decimal figures scales =>
      -- No character of a decimal is an `i`, large or small.
      refine iff_of_false ?_ (by rintro ⟨⟩)
      have chars : ∀ c ∈ _, IsDecimalChar c := fun c member =>
        (List.mem_append.1 member).elim (sign.isDecimalChar c)
          ((Spelled.decimal figures scales).isDecimalChar c)
      rw [Literal.mentionsInfinity_iff fun c member => (chars c member).toNat_lt]
      intro found
      have member : 'i' ∈ "inf".toList := by decide
      obtain ⟨c, inside, letter⟩ := List.mem_map.1 (found.subset member)
      exact (chars c inside).toLower_ne letter

/-- No letter of an exponent stands before the exponent. -/
theorem Figures.not_mem_append {lead front digits : List Char} {negative : Bool} {places : Nat}
    (figures : Figures front digits places) (sign : Sign lead negative) {mark : Char}
    (letter : mark = 'e' ∨ mark = 'E') : mark ∉ lead ++ front := by
  intro member
  rcases List.mem_append.1 member with before | inside
  · rcases letter with rfl | rfl <;> exact absurd (sign.eq_or_of_mem before) (by decide)
  · have noPoint : mark ≠ '.' := by
      rcases letter with rfl | rfl <;> decide
    have digit := figures.isDigit mark ((figures.mem_iff noPoint).1 inside)
    rcases letter with rfl | rfl <;> cases digit

/-- A decimal has a digit other than zero before its exponent if it is not zero. -/
theorem Signed.hasNonzeroMantissa_iff {text : List Char} {negative : Bool} {value : Decimal}
    (signed : Signed text negative (.decimal value)) :
    hasNonzeroMantissa text = true ↔ value.coefficient ≠ 0 := by
  obtain @⟨lead, _, _, _, sign, spelled⟩ := signed
  cases spelled with
  | @decimal front digits back places exponent figures scales =>
      -- The scan reaches up to the exponent, and neither a sign nor a point counts in it.
      have keeps : ∀ c ∈ lead ++ front, (!(decide (c = 'e') || decide (c = 'E'))) = true := by
        intro c member
        have notE := fun letter => figures.not_mem_append sign letter member
        simpa using notE
      have stops : (back.takeWhile fun c => !(decide (c = 'e') || decide (c = 'E'))) = [] := by
        cases scales with
        | absent => rfl
        | marked letter denotes => rcases letter with rfl | rfl <;> rfl
      rw [hasNonzeroMantissa, ← List.append_assoc, List.takeWhile_append_of_pos keeps, stops,
        List.append_nil, List.any_eq_true, digitsValue_ne_zero_iff figures.isDigit]
      simp only [Bool.and_eq_true, decide_eq_true_eq]
      constructor
      · rintro ⟨c, member, within⟩
        have noPoint : c ≠ '.' := by
          rintro rfl
          exact absurd within (by decide)
        rcases List.mem_append.1 member with before | inside
        · rcases sign.eq_or_of_mem before with rfl | rfl <;> exact absurd within (by decide)
        · exact ⟨c, (figures.mem_iff noPoint).1 inside, within⟩
      · rintro ⟨c, member, within⟩
        have noPoint : c ≠ '.' := by
          rintro rfl
          exact absurd within (by decide)
        exact ⟨c, List.mem_append_right _ ((figures.mem_iff noPoint).2 member), within⟩

/-! ### The reader -/

section

variable {format : Format} {text : List Char}

/-- The letters of a literal contradict its number: it is infinite and they do not say so, or it
is zero and they say that it is not. -/
def Contradicts (text : List Char) (value : Binary format) : Prop :=
  (value.isInfinite = true ∧ ¬mentionsInfinity text = true) ∨
    (value.isZero = true ∧ hasNonzeroMantissa text = true)

/-- The letters of a decimal contradict each infinity, and zero if the decimal is not zero. -/
theorem Signed.contradicts_iff {negative : Bool} {decimal : Decimal}
    (signed : Signed text negative (.decimal decimal)) (value : Binary format) :
    Contradicts text value ↔
      value.isInfinite = true ∨ (value.isZero = true ∧ decimal.coefficient ≠ 0) := by
  have silent : ¬mentionsInfinity text = true := by
    rw [signed.mentionsInfinity_iff]
    rintro ⟨⟩
  rw [Contradicts, signed.hasNonzeroMantissa_iff, and_iff_left silent]

/-- The letters of the word for an infinity agree with it. -/
theorem Signed.not_contradicts {negative : Bool} (signed : Signed text negative .infinite) :
    ¬Contradicts text (.infinite negative : Binary format) := by
  rintro (⟨-, silent⟩ | ⟨⟨⟩, -⟩)
  exact silent (signed.mentionsInfinity_iff.2 rfl)

theorem exists_readBinary_of_none (rounded : (readRounded? text : Option (Binary format)) = none) :
    ∃ reason, (readBinary text : Except ReadFailure (Binary format)) =
      .error (.unreadable reason) := by
  rw [readBinary, rounded]
  split
  · exact ⟨_, rfl⟩
  · exact ⟨_, rfl⟩

/-- How a literal is read whose number is known. -/
theorem readBinary_of_some {value : Binary format} (rounded : readRounded? text = some value) :
    readBinary text =
      if value.isInfinite = true ∧ ¬mentionsInfinity text = true then .error .outOfRange
      else if value.isZero = true ∧ hasNonzeroMantissa text = true then .error .outOfRange
      else .ok value := by
  have counted : ¬text.isEmpty = true := by
    intro empty
    rw [List.isEmpty_iff.1 empty] at rounded
    cases rounded
  simp only [readBinary, if_neg counted, rounded, Bool.and_eq_true, Bool.not_eq_true',
    Bool.not_eq_true]

theorem readBinary_of_contradicts {value : Binary format}
    (rounded : readRounded? text = some value) (contradicts : Contradicts text value) :
    (readBinary text : Except ReadFailure (Binary format)) = .error .outOfRange := by
  rw [readBinary_of_some rounded]
  rcases contradicts with lost | lost
  · rw [if_pos lost]
  · rw [if_pos lost, ite_self]

theorem readBinary_of_not_contradicts {value : Binary format}
    (rounded : readRounded? text = some value) (agrees : ¬Contradicts text value) :
    readBinary text = .ok value := by
  rw [readBinary_of_some rounded, if_neg fun lost => agrees (.inl lost),
    if_neg fun lost => agrees (.inr lost)]

/-- A literal is read as the number that it is rounded to if its letters do not contradict it. -/
theorem readBinary_eq_ok_iff {value : Binary format} :
    readBinary text = .ok value ↔ readRounded? text = some value ∧ ¬Contradicts text value := by
  constructor
  · intro reads
    cases rounded : (readRounded? text : Option (Binary format)) with
    | none =>
        obtain ⟨reason, fails⟩ := exists_readBinary_of_none rounded
        rw [fails] at reads
        cases reads
    | some found =>
        by_cases contradicts : Contradicts text found
        · rw [readBinary_of_contradicts rounded contradicts] at reads
          cases reads
        · rw [readBinary_of_not_contradicts rounded contradicts] at reads
          cases reads
          exact ⟨rfl, contradicts⟩
  · rintro ⟨rounded, agrees⟩
    exact readBinary_of_not_contradicts rounded agrees

/-- A literal is out of range if its letters contradict the number that it is rounded to. -/
theorem readBinary_eq_outOfRange_iff :
    (readBinary text : Except ReadFailure (Binary format)) = .error .outOfRange ↔
      ∃ value : Binary format, readRounded? text = some value ∧ Contradicts text value := by
  constructor
  · intro fails
    cases rounded : (readRounded? text : Option (Binary format)) with
    | none =>
        obtain ⟨reason, unreadable⟩ := exists_readBinary_of_none rounded
        rw [unreadable] at fails
        cases fails
    | some found =>
        refine ⟨found, rfl, ?_⟩
        by_contra agrees
        rw [readBinary_of_not_contradicts rounded agrees] at fails
        cases fails
  · rintro ⟨value, rounded, contradicts⟩
    exact readBinary_of_contradicts rounded contradicts

/-- All other texts are unreadable. -/
theorem exists_readBinary_eq_unreadable_iff :
    (∃ reason, (readBinary text : Except ReadFailure (Binary format)) =
      .error (.unreadable reason)) ↔ (readRounded? text : Option (Binary format)) = none := by
  refine ⟨?_, exists_readBinary_of_none⟩
  rintro ⟨reason, fails⟩
  cases rounded : (readRounded? text : Option (Binary format)) with
  | none => rfl
  | some found =>
      by_cases contradicts : Contradicts text found
      · rw [readBinary_of_contradicts rounded contradicts] at fails
        cases fails
      · rw [readBinary_of_not_contradicts rounded contradicts] at fails
        cases fails

end

end Literal

end Settings
