import Settings.Coercion
import Settings.Proofs.Digits
import Settings.Proofs.EnumSets

/-!
Printed literals read back: integers, truth values, members of enumerations and
memory sizes.

Each reader is shown to undo the printer of its type on the text itself; `readAs` adds
only the trimming, which changes none of these texts.
-/

namespace Settings

/-- What is made of the results of a reader is made of the results of reading texts. -/
theorem readAs_map {α β : Type} (target : Target) (read : List Char → Except ReadFailure α)
    (make : α → β) (text : String) :
    readAs target (fun text => (read text).map make) text =
      (readAs target read text).map make := by
  simp only [readAs]
  cases read (Text.trim text.toList) <;> rfl

/-- A text is read as what its reader makes of the trimmed text. -/
theorem readAs_eq_ok_iff {α : Type} {target : Target} {read : List Char → Except ReadFailure α}
    {text : String} {value : α} :
    readAs target read text = .ok value ↔ read (Text.trim text.toList) = .ok value := by
  simp only [readAs]
  cases read (Text.trim text.toList) with
  | ok found =>
      constructor
      · rintro ⟨⟩
        rfl
      · rintro ⟨⟩
        rfl
  | error failure => exact iff_of_false (by rintro ⟨⟩) (by rintro ⟨⟩)

/-- A reader applied to a text without white space at its ends. -/
theorem readAs_eq_ok {α : Type} {target : Target} {read : List Char → Except ReadFailure α}
    {text : String} {value : α} (solid : Text.hasBlankEnd text.toList = false)
    (reads : read text.toList = .ok value) : readAs target read text = .ok value := by
  rw [readAs_eq_ok_iff, Text.trim_of_hasBlankEnd solid]
  exact reads

/-- A text is out of range, and quoted without the white space at its ends, if its reader says
so of the trimmed text. -/
theorem readAs_eq_outOfRange_iff {α : Type} {target : Target}
    {read : List Char → Except ReadFailure α} {text : String} :
    readAs target read text =
        .error (.failed (.outOfRange (String.ofList (Text.trim text.toList)) target)) ↔
      read (Text.trim text.toList) = .error .outOfRange := by
  simp only [readAs]
  cases read (Text.trim text.toList) with
  | ok found => exact iff_of_false (by rintro ⟨⟩) (by rintro ⟨⟩)
  | error failure =>
      cases failure with
      | outOfRange => exact iff_of_true rfl rfl
      | _ => exact iff_of_false (by rintro ⟨⟩) (by rintro ⟨⟩)

/-- A text is unreadable, and quoted as a whole, for the reason that its reader gives for the
trimmed text. -/
theorem readAs_eq_unreadable_iff {α : Type} {target : Target}
    {read : List Char → Except ReadFailure α} {text : String} {reason : Reason} :
    readAs target read text = .error (.failed (.unreadable text target reason)) ↔
      read (Text.trim text.toList) = .error (.unreadable reason) := by
  simp only [readAs]
  cases read (Text.trim text.toList) with
  | ok found => exact iff_of_false (by rintro ⟨⟩) (by rintro ⟨⟩)
  | error failure =>
      cases failure with
      | unreadable other =>
          constructor
          · rintro ⟨⟩
            rfl
          · rintro ⟨⟩
            rfl
      | _ => exact iff_of_false (by rintro ⟨⟩) (by rintro ⟨⟩)

/-- Of units listed from the largest to the smallest, the first that divides a number is the
largest that does. -/
theorem largest_of_find? {α : Type} {units : List α} {size : α → Nat} {n : Nat} {unit : α}
    (descending : units.Pairwise fun larger smaller => size smaller ≤ size larger)
    (found : units.find? (fun unit => n % size unit == 0) = some unit) :
    size unit ∣ n ∧ ∀ other ∈ units, size other ∣ n → size other ≤ size unit := by
  obtain ⟨divides, before, after, split, none⟩ := List.find?_eq_some_iff_append.1 found
  refine ⟨Nat.dvd_of_mod_eq_zero (by simpa using divides), ?_⟩
  intro other listed dividesToo
  rw [split] at listed descending
  rcases List.mem_append.1 listed with earlier | later
  · have skipped := none other earlier
    rw [Nat.mod_eq_zero_of_dvd dividesToo] at skipped
    cases skipped
  · rcases List.mem_cons.1 later with rfl | later
    · exact Nat.le_refl _
    · exact (List.pairwise_cons.1 (List.pairwise_append.1 descending).2.1).1 other later

namespace Literal

/-! ### Integers -/

/-- Reading digits ends with their value as long as that stays within the bound, and is out
of range otherwise. -/
theorem readMagnitude_of_isDigit (bound : Nat) {digits : List Char} {value : Nat}
    (numeric : ∀ c ∈ digits, c.isDigit = true) (within : value ≤ bound) :
    readMagnitude bound value digits =
      if Nat.ofDigitChars 10 digits value ≤ bound then .ok (Nat.ofDigitChars 10 digits value)
      else .error .outOfRange := by
  induction digits generalizing value with
  | nil => simp [readMagnitude, within]
  | cons c digits ih =>
      have digit : c.isDigit = true := numeric c (List.mem_cons_self ..)
      have rest : ∀ d ∈ digits, d.isDigit = true :=
        fun d member => numeric d (List.mem_cons_of_mem _ member)
      have next : 10 * value + (c.toNat - '0'.toNat) = value * 10 + Text.digitValue c := by
        rw [Nat.mul_comm, Text.digitValue]
      rw [readMagnitude, if_pos digit, Nat.ofDigitChars_cons, next]
      by_cases fits : value * 10 + Text.digitValue c ≤ bound
      · rw [if_pos fits, ih rest fits]
      · have larger := Text.le_ofDigitChars digits (value * 10 + Text.digitValue c)
        rw [if_neg fits, if_neg (by omega)]

/-- The digits of a number are read as the number, or are out of range. -/
theorem readDigits_ofNat (bound n : Nat) :
    readDigits bound (Text.ofNat n) = if n ≤ bound then .ok n else .error .outOfRange := by
  have value : Nat.ofDigitChars 10 (Text.ofNat n) 0 = n := Text.digitsValue_ofNat n
  rw [readDigits, if_neg (by simp [Text.ofNat_ne_nil]),
    readMagnitude_of_isDigit bound (fun c => Text.isDigit_of_mem_ofNat) (Nat.zero_le _), value]

/-- A text that begins with a digit has no sign. -/
theorem readInteger_of_isDigit (limit : Nat) {c : Char} (digit : c.isDigit = true)
    (rest : List Char) :
    readInteger limit (c :: rest) =
      (readDigits (limit - 1) (c :: rest)).map (fun n : Nat => (n : Int)) := by
  unfold readInteger
  split
  · next empty => cases empty
  · next minus =>
      obtain ⟨rfl, -⟩ := List.cons.inj minus
      cases digit
  · next plus =>
      obtain ⟨rfl, -⟩ := List.cons.inj plus
      cases digit
  · rfl

/-- The text of an integer is read as the integer, or is out of range. -/
theorem readInteger_ofInt {limit : Nat} (positive : 0 < limit) (n : Int) :
    readInteger limit (Text.ofInt n) =
      if -(limit : Int) ≤ n ∧ n < limit then .ok n else .error .outOfRange := by
  unfold Text.ofInt
  split
  · next negative =>
      rw [readInteger, readDigits_ofNat]
      by_cases within : n.natAbs ≤ limit
      · have value : -(n.natAbs : Int) = n := by omega
        rw [if_pos within, if_pos (by omega)]
        exact congrArg Except.ok value
      · rw [if_neg within, if_neg (by omega)]
        rfl
  · next natural =>
      have read := readDigits_ofNat (limit - 1) n.natAbs
      cases digits : Text.ofNat n.natAbs with
      | nil => exact absurd digits (Text.ofNat_ne_nil _)
      | cons c rest =>
          have digit : c.isDigit = true := by
            apply Text.isDigit_of_mem_ofNat (n := n.natAbs)
            rw [digits]
            exact List.mem_cons_self ..
          rw [digits] at read
          rw [readInteger_of_isDigit limit digit, read]
          by_cases within : n.natAbs ≤ limit - 1
          · have value : (n.natAbs : Int) = n := by omega
            rw [if_pos within, if_pos (by omega)]
            exact congrArg Except.ok value
          · rw [if_neg within, if_neg (by omega)]
            rfl

theorem hasBlankEnd_ofInt (n : Int) : Text.hasBlankEnd (Text.ofInt n) = false := by
  apply Text.hasBlankEnd_of_forall
  intro c member
  unfold Text.ofInt at member
  split at member
  · rcases List.mem_cons.1 member with rfl | digit
    · rfl
    · exact Text.isSpace_of_mem_ofNat digit
  · exact Text.isSpace_of_mem_ofNat member

/-- The text of an integer is read as what is made of the integer, or is out of range. -/
theorem readAs_readInteger {α : Type} {limit : Nat} (positive : 0 < limit) (target : Target)
    (make : Int → α) (n : Int) :
    readAs target (fun text => (readInteger limit text).map make) (String.ofList (Text.ofInt n)) =
      if -(limit : Int) ≤ n ∧ n < limit then .ok (make n)
      else .error (.failed (.outOfRange (String.ofList (Text.ofInt n)) target)) := by
  simp only [readAs, String.toList_ofList, Text.trim_of_hasBlankEnd (hasBlankEnd_ofInt n),
    readInteger_ofInt positive]
  split <;> rfl

/-- The text of a 32-bit integer is read as the integer. -/
theorem readAs_readInt_ofInt (value : Int32) :
    readAs .int readInt (String.ofList (Text.ofInt value.toInt)) = .ok value := by
  have low := value.le_toInt
  have high := value.toInt_lt
  apply (readAs_readInteger (by decide) .int Int32.ofInt value.toInt).trans
  rw [if_pos ⟨by simpa using low, by simpa using high⟩, Int32.ofInt_toInt]

/-- The text of a 64-bit integer is read as the integer. -/
theorem readAs_readLong_ofInt (value : Int64) :
    readAs .long readLong (String.ofList (Text.ofInt value.toInt)) = .ok value := by
  have low := value.le_toInt
  have high := value.toInt_lt
  apply (readAs_readInteger (by decide) .long Int64.ofInt value.toInt).trans
  rw [if_pos ⟨by simpa [signedLimit] using low, by simpa [signedLimit] using high⟩,
    Int64.ofInt_toInt]

/-! ### Truth values and members -/

/-- The text of a truth value is read as the value. -/
theorem readAs_readBool_boolText (value : Bool) :
    readAs .bool readBool (Value.boolText value) = .ok value := by
  cases value with
  | true => exact readAs_eq_ok (by decide) rfl
  | false => exact readAs_eq_ok (by decide) rfl

end Literal

namespace EnumSet

/-- A set in which reading a name finds the member of that name: no name has white space at
an end, and no two names are equal but for case. -/
structure WellNamed (set : EnumSet) : Prop where
  trimmed : ∀ name ∈ set.members, Text.trim name.toList = name.toList
  distinct : (set.members.map fun name => Text.upper name.toList).Nodup

/-- In such a set two positions never answer to the same name. -/
theorem WellNamed.not_sameName {set : EnumSet} (wellNamed : set.WellNamed) {i j : Nat}
    (low : i < set.members.length) (high : j < set.members.length) (before : i < j) :
    sameName set.members[i] set.members[j] = false := by
  have distinct := List.pairwise_iff_getElem.1 wellNamed.distinct i j
    (by simpa using low) (by simpa using high) before
  simpa [sameName] using distinct

/-- A member is found under its own name. -/
theorem WellNamed.lookup_name {member : EnumMember} (wellNamed : member.set.WellNamed) :
    member.set.lookup member.name = some member := by
  have found : member.set.members.findIdx? (sameName · member.name) = some member.index := by
    rw [List.findIdx?_eq_some_iff_getElem]
    refine ⟨member.valid, ?_, ?_⟩
    · simp [sameName, EnumMember.name]
    · intro j before
      rw [EnumMember.name]
      simp [wellNamed.not_sameName (Nat.lt_trans before member.valid) member.valid before]
  simp [lookup_eq, found, member?, member.valid]

end EnumSet

namespace Literal

/-- The name of a member is read as the member. -/
theorem readAs_readMember_name {member : EnumMember} (wellNamed : member.set.WellNamed) :
    readAs (.member member.set.name) (readMember member.set) member.name = .ok member := by
  have listed : member.name ∈ member.set.members := List.get_mem ..
  simp only [readAs, wellNamed.trimmed _ listed, readMember, String.ofList_toList,
    wellNamed.lookup_name]
  rfl

/-! ### Memory sizes -/

/-- The unit is the largest that divides the bytes, or the single byte if there are none. -/
structure IsHighestUnit (bytes : Nat) (unit : MemorySize.Unit) : Prop where
  listed : unit ∈ MemorySize.units
  divides : unit.bytes ∣ bytes
  single : bytes = 0 → unit.bytes = 1
  largest : bytes ≠ 0 → ∀ other ∈ MemorySize.units, other.bytes ∣ bytes → other.bytes ≤ unit.bytes

/-- Every unit but the single byte is a multiple of the next one, so some unit is always
found: a size is printed as a whole number of units and the label of the unit. -/
theorem exists_unit_toList_text (size : MemorySize) :
    ∃ unit, IsHighestUnit size.bytes unit ∧
      size.text.toList =
        Text.ofNat (size.bytes / unit.bytes) ++ ([' '] ++ unit.label.toList) := by
  have descending :
      MemorySize.units.Pairwise fun larger smaller => smaller.bytes ≤ larger.bytes := by
    decide
  unfold MemorySize.text
  by_cases zero : size.bytes = 0
  · refine ⟨⟨1, ["b", "bytes"], "bytes"⟩, ⟨by decide, by simp, fun _ => rfl, ?_⟩, ?_⟩
    · exact fun nonzero => absurd zero nonzero
    · rw [if_pos zero, zero]
      rfl
  · rw [if_neg zero]
    cases found : MemorySize.units.find? fun unit => size.bytes % unit.bytes == 0 with
    | some unit =>
        obtain ⟨divides, largest⟩ := largest_of_find? descending found
        refine ⟨unit, ⟨List.mem_of_find?_eq_some found, divides, ?_, fun _ => largest⟩, by simp⟩
        exact fun none => absurd none zero
    | none =>
        have last := List.find?_eq_none.1 found ⟨1, ["b", "bytes"], "bytes"⟩ (by decide)
        exact absurd (by simp [Nat.mod_one]) last

/-- A label is read as its unit, also behind white space. -/
theorem memoryUnit?_label :
    ∀ unit ∈ MemorySize.units, 0 < unit.bytes ∧
      memoryUnit? (String.ofList (Text.lower (Text.trim ([' '] ++ unit.label.toList)))) =
        some unit.bytes := by
  decide

theorem hasBlankEnd_label :
    ∀ unit ∈ MemorySize.units, unit.label.toList ≠ [] ∧
      Text.hasBlankEnd unit.label.toList = false := by
  decide

/-- The text of a memory size is read as the size. -/
theorem readAs_readMemorySize_text (size : MemorySize) :
    readAs .memorySize readMemorySize size.text = .ok size := by
  obtain ⟨unit, highest, text⟩ := exists_unit_toList_text size
  obtain ⟨positive, label⟩ := memoryUnit?_label unit highest.listed
  obtain ⟨hasLabel, solidLabel⟩ := hasBlankEnd_label unit highest.listed
  have numeric : ∀ c ∈ Text.ofNat (size.bytes / unit.bytes), c.isDigit = true :=
    fun c => Text.isDigit_of_mem_ofNat
  have ends : ∀ c, ([' '] ++ unit.label.toList).head? = some c → c.isDigit = false := by
    intro c head
    cases head
    rfl
  have count : size.bytes / unit.bytes < wordLimit :=
    Nat.lt_of_le_of_lt (Nat.div_le_self ..) size.inRange
  have product : size.bytes / unit.bytes * unit.bytes = size.bytes :=
    Nat.div_mul_cancel highest.divides
  apply readAs_eq_ok
  · rw [text]
    exact Text.hasBlankEnd_append
      (Text.hasBlankEnd_of_forall fun c => Text.isSpace_of_mem_ofNat) solidLabel
      (Text.ofNat_ne_nil _) hasLabel [' ']
  · rw [text]
    simp only [readMemorySize, Text.takeWhile_isDigit_append numeric ends,
      Text.dropWhile_isDigit_append numeric ends, label, Text.digitsValue_ofNat, product,
      List.isEmpty_iff, Text.ofNat_ne_nil, if_false, if_neg (Nat.not_le.2 count),
      MemorySize.ofBytes?, dif_pos size.inRange]

end Literal

end Settings
