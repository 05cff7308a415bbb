import Settings.Proofs.LetterCase

/-!
Compound durations.

A compound is a row of parts, each of them a count of a unit in any case, and white space may
stand around every count and every unit.  The machine that reads components adds the parts one
after the other, and nothing is lost on the way (`exists_sums_append`) as long as the total is in
range and no part in a unit below the second comes close to 64 bits of nanoseconds.  So a
compound denotes the exact total of its parts, in whatever order they are written.
-/

namespace Settings

/-! ### White space and lower case -/

namespace Text

section

variable {c : Char} {text : List Char}

/-- The codes of the characters that are white space. -/
def spaceCodes : List Nat :=
  [9, 10, 11, 12, 13, 0x20, 0x85, 0xA0, 0x1680, 0x2000, 0x2001, 0x2002, 0x2003, 0x2004, 0x2005,
    0x2006, 0x2007, 0x2008, 0x2009, 0x200A, 0x2028, 0x2029, 0x202F, 0x205F, 0x3000]

theorem toNat_mem_spaceCodes (space : isSpace c = true) : c.toNat ∈ spaceCodes := by
  simp only [isSpace, Bool.or_eq_true, Bool.and_eq_true, decide_eq_true_eq, beq_iff_eq] at space
  simp only [spaceCodes, List.mem_cons, List.not_mem_nil, or_false]
  omega

/-- What holds of each of the codes holds of every character that is white space. -/
theorem forall_isSpace {P : Char → Prop} (each : ∀ code ∈ spaceCodes, P (Char.ofNat code))
    (space : isSpace c = true) : P c := by
  have holds := each c.toNat (toNat_mem_spaceCodes space)
  rwa [Char.ofNat_toNat] at holds

theorem isLowered_of_isSpace (space : isSpace c = true) : IsLowered c :=
  forall_isSpace (by decide +kernel) space

theorem toLower_of_isSpace (space : isSpace c = true) : c.toLower = c := by
  have each : ∀ code ∈ spaceCodes, (Char.ofNat code).toLower = Char.ofNat code := by decide
  exact @forall_isSpace c (fun c => c.toLower = c) each space

theorem map_toLower_of_isBlank (blank : isBlank text = true) : text.map Char.toLower = text := by
  have each := List.all_eq_true.1 blank
  rw [List.map_congr_left fun c member => toLower_of_isSpace (each c member), List.map_id']

end

end Text

namespace Literal

/-! ### Parts -/

/-- The names of the units that parts are written in, in small letters, and the lengths of the
units in nanoseconds. -/
def unitNames : List (String × Nat) :=
  let second := nanosPerSecond
  [("ns", 1), ("us", 1000), ("ms", 1000000), ("s", second), ("sec", second), ("min", 60 * second),
    ("m", 60 * second), ("h", 3600 * second), ("d", 86400 * second), ("w", 604800 * second)]

/-- A part of a compound duration: a count of a unit, whose length is in nanoseconds. -/
structure Part where
  count : Nat
  length : Nat
deriving Repr, DecidableEq

/-- The nanoseconds of a part. -/
def Part.nanos (part : Part) : Nat := part.count * part.length

/-- The nanoseconds of all the parts. -/
def totalNanos : List Part → Nat
  | [] => 0
  | part :: parts => part.nanos + totalNanos parts

/-- The text spells the parts in their order: the digits of each count and a name of its unit in
any case, with white space behind both or none. -/
inductive SpellsParts : List Part → List Char → Prop where
  | nil : SpellsParts [] []
  | cons {part : Part} {parts : List Part} {digits between letters after rest : List Char}
      (numeric : IsNumeric digits) (value : Text.digitsValue digits = part.count)
      (blankBetween : Text.isBlank between = true)
      (named : (String.ofList (letters.map Char.toLower), part.length) ∈ unitNames)
      (blankAfter : Text.isBlank after = true) (behind : SpellsParts parts rest) :
      SpellsParts (part :: parts) (digits ++ between ++ letters ++ after ++ rest)

theorem spells_unitName : ∀ entry ∈ unitNames, Spells entry.1.toList entry.2 := by
  intro entry listed
  simp only [unitNames, List.mem_cons, List.not_mem_nil, or_false] at listed
  rcases listed with rfl | rfl | rfl | rfl | rfl | rfl | rfl | rfl | rfl | rfl
  all_goals
    refine ⟨by decide, ?_, ?_, ?_, _, rfl, rfl, by decide⟩
    all_goals
      simp
      decide

theorem length_of_unitName : ∀ entry ∈ unitNames,
    0 < entry.2 ∧ (nanosPerSecond ∣ entry.2 ∨ entry.2 < nanosPerSecond) := by
  decide

section

variable {part : Part} {parts : List Part} {text before blank : List Char} {sum : Sum}

/-- The letters of a part, in small letters, spell its unit. -/
theorem spells_of_mem_unitNames {letters : List Char} {length : Nat}
    (named : (String.ofList (letters.map Char.toLower), length) ∈ unitNames) :
    Spells (letters.map Char.toLower) length := by
  have spells := spells_unitName _ named
  rwa [String.toList_ofList] at spells

/-- A part is read to its number if that has 64 bits, with white space behind the digits. -/
theorem counts_append_blank {digits between : List Char} {count : Nat} (numeric : IsNumeric digits)
    (value : Text.digitsValue digits = count) (blank : Text.isBlank between = true)
    (fits : count < wordLimit) : Counts (digits ++ between) count where
  first := by
    obtain ⟨c, rest, rfl⟩ := List.exists_cons_of_ne_nil numeric.counted
    exact ⟨c, rest ++ between, rfl, numeric.numeric c (List.mem_cons_self ..)⟩
  spaced := by
    intro c member
    rcases List.mem_append.1 member with digit | space
    · exact .inl (numeric.numeric c digit)
    · exact .inr (List.all_eq_true.1 blank c space)
  value := by
    have digits' : digits.filter Char.isDigit = digits := List.filter_eq_self.2 numeric.numeric
    have between' : between.filter Char.isDigit = [] := by
      rw [List.filter_eq_nil_iff]
      intro c member digit
      have space := List.all_eq_true.1 blank c member
      rw [Text.isSpace_of_isDigit digit] at space
      cases space
    rw [numberOf, List.filter_append, digits', between', List.append_nil, value]
  fits := fits

/-! ### Sums of parts -/

/-- White space behind components changes nothing. -/
theorem Sums.append_space (sums : Sums before sum) {c : Char} (space : Text.isSpace c = true) :
    Sums (before ++ [c]) sum := by
  obtain ⟨⟨phase, held⟩, reaches, ends⟩ := exists_reaches_of_sums sums
  cases phase with
  | start mark =>
      cases ends
      exact (sums_iff_of_reaches
        (reaches_append_singleton_iff.2 ⟨_, _, reaches, .wait space⟩)).2 rfl
  | whole count =>
      rw [finish, addComponent_nil] at ends
      cases ends
  | fraction count fraction mark =>
      rw [finish, addComponent_nil] at ends
      split at ends
      · cases ends
      · cases ends
  | unit count fraction letters =>
      exact (sums_iff_of_reaches
        (reaches_append_singleton_iff.2 ⟨_, _, reaches, .addWait space ends⟩)).2 rfl

theorem Sums.append_blank (sums : Sums before sum) (isBlank : Text.isBlank blank = true) :
    Sums (before ++ blank) sum := by
  induction blank generalizing before with
  | nil => rwa [List.append_nil]
  | cons c blank ih =>
      have spaces : Text.isSpace c = true ∧ Text.isBlank blank = true := by
        simpa [Text.isBlank] using isBlank
      have further := ih (sums.append_space spaces.1) spaces.2
      rwa [List.append_assoc] at further

/-- The part is in a unit of whole seconds, or with a second its nanoseconds have 64 bits. -/
def Part.Fits (part : Part) : Prop :=
  part.length < nanosPerSecond → part.nanos ≤ wordLimit - 1 - nanosPerSecond

instance (part : Part) : Decidable part.Fits :=
  inferInstanceAs (Decidable (_ → _))

/-- A part that fits and is in range has a count of 64 bits. -/
theorem Part.Fits.count_lt (fits : part.Fits) {name : String}
    (named : (name, part.length) ∈ unitNames)
    (inRange : part.nanos < wordLimit * nanosPerSecond) : part.count < wordLimit := by
  obtain ⟨positive, unit⟩ := length_of_unitName _ named
  rcases unit with whole | below
  · have seconds : part.count * nanosPerSecond ≤ part.nanos :=
      Nat.mul_le_mul_left _ (Nat.le_of_dvd positive whole)
    exact Nat.lt_of_mul_lt_mul_right (Nat.lt_of_le_of_lt seconds inRange)
  · have units : part.count ≤ part.nanos := Nat.le_mul_of_pos_right _ positive
    have room : nanosPerSecond < wordLimit := by decide
    have bounded := fits below
    omega

/-- Of a part, only the letters have a case. -/
theorem map_toLower_part {digits between letters after : List Char} (numeric : IsNumeric digits)
    (blankBetween : Text.isBlank between = true) (blankAfter : Text.isBlank after = true)
    (rest : List Char) :
    (digits ++ between ++ letters ++ after ++ rest).map Char.toLower =
      digits ++ between ++ letters.map Char.toLower ++ after ++ rest.map Char.toLower := by
  simp only [List.map_append, Text.map_toLower_of_isDigit numeric.numeric,
    Text.map_toLower_of_isBlank blankBetween, Text.map_toLower_of_isBlank blankAfter]

/-- Behind components, parts are added to their sum exactly. -/
theorem exists_sums_append (spelled : SpellsParts parts text) (sums : Sums before sum)
    (small : sum.nanos < nanosPerSecond) (fits : ∀ part ∈ parts, part.Fits)
    (inRange : sum.total + totalNanos parts < wordLimit * nanosPerSecond) :
    ∃ result, Sums (before ++ text.map Char.toLower) result ∧
      result.total = sum.total + totalNanos parts := by
  induction spelled generalizing before sum with
  | nil => exact ⟨sum, by simpa using sums, (Nat.add_zero _).symm⟩
  | @cons part parts digits between letters after rest numeric value blankBetween named blankAfter
      behind ih =>
      rw [totalNanos] at inRange ⊢
      have spells := spells_of_mem_unitNames named
      have partFits := fits part (List.mem_cons_self ..)
      have count := partFits.count_lt named (by omega)
      have room : nanosPerSecond < wordLimit := by decide
      have fine : nanosPerSecond ∣ part.length ∨ sum.nanos + part.nanos < wordLimit :=
        (length_of_unitName _ named).2.imp_right fun below => by
          have bounded := partFits below
          omega
      obtain ⟨held, added, heldSmall, heldTotal⟩ :=
        exists_addComponent_eq_ok sum part.count spells small fine
          (Nat.lt_of_le_of_lt (Nat.add_le_add_left (Nat.le_add_right _ _) _) inRange)
      have component :
          Component (digits ++ between) [] (letters.map Char.toLower) part.count none :=
        ⟨counts_append_blank numeric value blankBetween count, .none, spells.nonempty,
          spells.lettered⟩
      have next := (sums.append_component_iff component).2 added
      change held.total = sum.total + part.nanos at heldTotal
      obtain ⟨result, further, total⟩ := ih (next.append_blank blankAfter) heldSmall
        (fun other listed => fits other (List.mem_cons_of_mem _ listed)) (by omega)
      refine ⟨result, ?_, by omega⟩
      rw [map_toLower_part numeric blankBetween blankAfter]
      simpa using further

/-! ### Texts of compounds -/

theorem SpellsParts.isLowered (spelled : SpellsParts parts text) :
    ∀ c ∈ text.map Char.toLower, Text.IsLowered c := by
  induction spelled with
  | nil => simp
  | @cons part parts digits between letters after rest numeric value blankBetween named blankAfter
      behind ih =>
      intro c member
      have settled := (spells_of_mem_unitNames named).settled
      rw [map_toLower_part numeric blankBetween blankAfter] at member
      simp only [List.mem_append] at member
      rcases member with (((digit | space) | letter) | space) | later
      · exact (Text.isSettled_of_isDigit (numeric.numeric c digit)).isLowered
      · exact Text.isLowered_of_isSpace (List.all_eq_true.1 blankBetween c space)
      · exact (settled c letter).isLowered
      · exact Text.isLowered_of_isSpace (List.all_eq_true.1 blankAfter c space)
      · exact ih c later

/-- The letters of a part are neither digits nor white space. -/
theorem unspaced_of_mem_unitNames {letters : List Char} {length : Nat}
    (named : (String.ofList (letters.map Char.toLower), length) ∈ unitNames) :
    letters ≠ [] ∧ ∀ c ∈ letters, c.isDigit = false ∧ Text.isSpace c = false := by
  have spells := spells_of_mem_unitNames named
  refine ⟨fun none => spells.nonempty (by rw [none]; rfl), fun c member => ?_⟩
  have apart := spells.unspaced c.toLower (List.mem_map_of_mem member)
  rwa [Text.isDigit_toLower, Text.isSpace_toLower] at apart

theorem SpellsParts.all_isDigit (spelled : SpellsParts parts text) (nonempty : parts ≠ []) :
    text.all Char.isDigit = false := by
  cases spelled with
  | nil => exact absurd rfl nonempty
  | cons numeric value blankBetween named blankAfter behind =>
      obtain ⟨some, apart⟩ := unspaced_of_mem_unitNames named
      obtain ⟨c, rest, rfl⟩ := List.exists_cons_of_ne_nil some
      simp [(apart c (List.mem_cons_self ..)).1]

/-- White space behind the last part can be taken away. -/
theorem SpellsParts.exists_append_blank (spelled : SpellsParts parts text) (nonempty : parts ≠ []) :
    ∃ core blank, text = core ++ blank ∧ Text.isBlank blank = true ∧ SpellsParts parts core ∧
      core ≠ [] ∧ Text.hasBlankEnd core = false := by
  induction spelled with
  | nil => exact absurd rfl nonempty
  | @cons part parts digits between letters after rest numeric value blankBetween named blankAfter
      behind ih =>
      have front : Text.hasBlankEnd digits = false :=
        Text.hasBlankEnd_of_forall fun c member =>
          Text.isSpace_of_isDigit (numeric.numeric c member)
      obtain ⟨some, apart⟩ := unspaced_of_mem_unitNames named
      have back : Text.hasBlankEnd letters = false :=
        Text.hasBlankEnd_of_forall fun c member => (apart c member).2
      cases behind with
      | nil =>
          refine ⟨digits ++ between ++ letters ++ [] ++ [], after, by simp, blankAfter,
            .cons numeric value blankBetween named rfl .nil, by simp [some], ?_⟩
          simpa using Text.hasBlankEnd_append front back numeric.counted some between
      | cons =>
          obtain ⟨core, blank, whole, isBlank, spelled, filled, solid⟩ := ih (List.cons_ne_nil _ _)
          refine ⟨digits ++ between ++ letters ++ after ++ core, blank, ?_, isBlank,
            .cons numeric value blankBetween named blankAfter spelled, by simp [some], ?_⟩
          · rw [whole, List.append_assoc _ core]
          · simpa using Text.hasBlankEnd_append front solid numeric.counted filled
              (between ++ letters ++ after)

/-- A compound without white space at its ends is read to its total. -/
theorem readDuration_of_spellsParts (spelled : SpellsParts parts text) (nonempty : parts ≠ [])
    (fits : ∀ part ∈ parts, part.Fits) {duration : Duration}
    (exact : duration.nanos = totalNanos parts) : readDuration text = .ok duration := by
  have mixed := spelled.all_isDigit nonempty
  have filled : text.isEmpty = false := by
    cases text with
    | nil => cases mixed
    | cons c rest => rfl
  have lowered : Text.lower text = text.map Char.toLower := by
    rw [← Text.lower_map_toLower]
    exact Text.lower_of_isLowered spelled.isLowered
  have nothing : Sums [] ⟨0, 0⟩ := rfl
  have zero : (Sum.mk 0 0).total = 0 := rfl
  have inRange : (Sum.mk 0 0).total + totalNanos parts < wordLimit * nanosPerSecond := by
    rw [zero, Nat.zero_add, ← exact]
    exact duration.inRange
  obtain ⟨result, sums, total⟩ := exists_sums_append spelled nothing (by decide) fits inRange
  have reads : readComponents 0 (.start 0, ⟨0, 0⟩) (text.map Char.toLower) = .ok result := sums
  rw [zero, Nat.zero_add, ← exact] at total
  rw [readDuration, if_neg (by simp [filled]), if_neg (by simp [mixed]), lowered, reads, ok_bind,
    Sum.duration_of_total result total]

/-- The text spells the parts, with any white space around them. -/
inductive SpellsCompound (parts : List Part) : List Char → Prop where
  | intro {before body : List Char} (blankBefore : Text.isBlank before = true)
      (spelled : SpellsParts parts body) : SpellsCompound parts (before ++ body)

theorem readAs_of_spellsCompound {compound : String}
    (spelled : SpellsCompound parts compound.toList) (nonempty : parts ≠ [])
    (fits : ∀ part ∈ parts, part.Fits) {duration : Duration}
    (exact : duration.nanos = totalNanos parts) :
    readAs .duration readDuration compound = .ok duration := by
  have trimmed : SpellsParts parts (Text.trim compound.toList) := by
    generalize compound.toList = text at spelled
    cases spelled with
    | intro blankBefore spelled =>
        obtain ⟨core, blank, rfl, isBlank, spelled, -, solid⟩ :=
          spelled.exists_append_blank nonempty
        rwa [Text.trim_blank_append blankBefore, Text.trim_append_of_isBlank isBlank,
          Text.trim_of_hasBlankEnd solid]
  exact readAs_eq_ok_iff.2 (readDuration_of_spellsParts trimmed nonempty fits exact)

/-- The order of the parts has no part in their total. -/
theorem totalNanos_of_perm {others : List Part} (same : others.Perm parts) :
    totalNanos others = totalNanos parts := by
  induction same with
  | nil => rfl
  | cons part _ ih => rw [totalNanos, totalNanos, ih]
  | swap part other parts =>
      simp only [totalNanos]
      omega
  | trans _ _ first second => rw [first, second]

theorem readDuration_of_isNumeric (numeric : IsNumeric text) :
    readDuration text =
      if Text.digitsValue text < wordLimit then
        match Duration.ofNanos? (Text.digitsValue text * 1000000) with
        | some duration => .ok duration
        | none => .error .outOfRange
      else .error .outOfRange := by
  have filled : ¬text.isEmpty = true := by simp [numeric.counted]
  exact (if_neg filled).trans (if_pos (List.all_eq_true.2 numeric.numeric))

end

end Literal

open Literal

/-- Parts that fit and are in range are read to their exact total, in any order and however they
are spelled.  Digits alone are read as milliseconds if their number has 64 bits, and they are out
of range if it has not. -/
theorem readAs_compound :
    (∀ parts : List Part, parts ≠ [] → (∀ part ∈ parts, part.Fits) →
      totalNanos parts < wordLimit * nanosPerSecond →
        ∃ duration : Duration, duration.nanos = totalNanos parts ∧
          ∀ others : List Part, others.Perm parts → ∀ text : String,
            SpellsCompound others text.toList →
              readAs .duration readDuration text = .ok duration) ∧
    ∀ text : String, IsNumeric text.toList →
      (Text.digitsValue text.toList < wordLimit → ∃ duration : Duration,
        duration.nanos = Text.digitsValue text.toList * 1000000 ∧
          readAs .duration readDuration text = .ok duration) ∧
      (wordLimit ≤ Text.digitsValue text.toList →
        readAs .duration readDuration text = .error (.failed (.outOfRange text .duration))) := by
  constructor
  · intro parts nonempty fits inRange
    refine ⟨⟨totalNanos parts, inRange⟩, rfl, fun others same text spelled => ?_⟩
    apply readAs_of_spellsCompound spelled
    · rintro rfl
      exact nonempty same.symm.eq_nil
    · exact fun part listed => fits part (same.mem_iff.1 listed)
    · exact (totalNanos_of_perm same).symm
  · intro text numeric
    have solid : Text.trim text.toList = text.toList :=
      Text.trim_of_hasBlankEnd (Text.hasBlankEnd_of_forall fun c member =>
        Text.isSpace_of_isDigit (numeric.numeric c member))
    have reads := readDuration_of_isNumeric numeric
    constructor
    · intro small
      have second : 1000000 ≤ nanosPerSecond := by decide
      have inRange : Text.digitsValue text.toList * 1000000 < wordLimit * nanosPerSecond :=
        Nat.mul_lt_mul_of_lt_of_le small second (by decide)
      have found : Duration.ofNanos? (Text.digitsValue text.toList * 1000000) =
          some ⟨_, inRange⟩ := dif_pos inRange
      refine ⟨⟨_, inRange⟩, rfl, readAs_eq_ok_iff.2 ?_⟩
      rw [solid, reads, if_pos small, found]
    · intro great
      have refused := @readAs_eq_outOfRange_iff _ .duration readDuration text
      rw [solid, String.ofList_toList, reads, if_neg (by omega)] at refused
      exact refused.2 rfl

/-- Half an hour and an hour in another order, without a gap and with another name in capital
letters; and the first number of milliseconds that does not have 64 bits. -/
theorem readAs_compound_samples :
    (∃ duration : Duration, duration.nanos = 5400000000000 ∧
      readAs .duration readDuration " 1h30 M" = .ok duration ∧
      readAs .duration readDuration "30min\u20091H" = .ok duration) ∧
    readAs .duration readDuration "0250" = .ok ⟨250000000, by decide⟩ ∧
    readAs .duration readDuration "18446744073709551616" =
      .error (.failed (.outOfRange "18446744073709551616" .duration)) := by
  have hour : ("h", 3600 * nanosPerSecond) ∈ unitNames := by decide
  have minute : ("m", 60 * nanosPerSecond) ∈ unitNames := by decide
  have minutes : ("min", 60 * nanosPerSecond) ∈ unitNames := by decide
  have one : IsNumeric ['1'] := ⟨by decide, List.all_eq_true.1 rfl⟩
  have thirty : IsNumeric ['3', '0'] := ⟨by decide, List.all_eq_true.1 rfl⟩
  refine ⟨?compound, ?digits, ?beyond⟩
  case compound =>
    have spelled : SpellsParts [⟨1, 3600 * nanosPerSecond⟩, ⟨30, 60 * nanosPerSecond⟩]
        (['1'] ++ [] ++ ['h'] ++ [] ++ (['3', '0'] ++ [' '] ++ ['M'] ++ [] ++ [])) :=
      .cons one rfl rfl hour rfl (.cons thirty rfl rfl minute rfl .nil)
    have spelled' : SpellsParts [⟨30, 60 * nanosPerSecond⟩, ⟨1, 3600 * nanosPerSecond⟩]
        (['3', '0'] ++ [] ++ "min".toList ++ ['\u2009'] ++ (['1'] ++ [] ++ ['H'] ++ [] ++ [])) :=
      .cons thirty rfl rfl minutes rfl (.cons one rfl rfl hour rfl .nil)
    obtain ⟨duration, exact, reads⟩ := readAs_compound.1
      [⟨1, 3600 * nanosPerSecond⟩, ⟨30, 60 * nanosPerSecond⟩] (by decide) (by decide) (by decide)
    refine ⟨duration, exact, ?_, ?_⟩
    · exact reads _ (.refl _) _ (@SpellsCompound.intro _ [' '] _ rfl spelled)
    · exact reads _ (.swap _ _ _) _ (@SpellsCompound.intro _ [] _ rfl spelled')
  case digits =>
    have numeric : IsNumeric "0250".toList := ⟨by decide, List.all_eq_true.1 rfl⟩
    obtain ⟨duration, exact, reads⟩ := (readAs_compound.2 "0250" numeric).1 (by decide)
    obtain ⟨nanos, inRange⟩ := duration
    cases exact
    exact reads
  case beyond =>
    have numeric : IsNumeric "18446744073709551616".toList := ⟨by decide, List.all_eq_true.1 rfl⟩
    exact (readAs_compound.2 "18446744073709551616" numeric).2 (by decide)

end Settings
