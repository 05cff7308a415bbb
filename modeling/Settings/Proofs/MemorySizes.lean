import Settings.Interchange
import Settings.Json
import Settings.Proofs.Literals
import Settings.Proofs.Traversals

/-!
Memory sizes: the texts that are read as one, and the text in which one is written.

A text is a count of units, `Literal.CountsUnits`, or it is unreadable; a count of units is out
of range if the bytes it comes to are, and unreadable if the count alone is too large already.
A size is written as a count of the largest unit that divides it, which counts no more than the
size itself, so it is always read back.
-/

namespace Settings

/-- No character is without a form in lower case. -/
theorem Text.lower_eq_nil_iff {text : List Char} : lower text = [] ↔ text = [] := by
  cases text with
  | nil => exact iff_of_true rfl rfl
  | cons c rest =>
      refine iff_of_false (fun none => ?_) (List.cons_ne_nil c rest)
      unfold lower lowerAfter lowerChar at none
      have form := (List.append_eq_nil_iff.1 none).1
      repeat' split at form
      all_goals cases form

/-! ### Units as powers of 1024 -/

namespace MemorySize

/-- The spellings of the units of memory: at each place those of `1024 ^ place` bytes. -/
def spellings : List (List String) := [
  ["b", "bytes"],
  ["k", "kb", "kibibytes"],
  ["m", "mb", "mebibytes"],
  ["g", "gb", "gibibytes"],
  ["t", "tb", "tebibytes"]]

/-- The labels in which sizes are written, at the same places. -/
def labels : List String := ["bytes", "kb", "mb", "gb", "tb"]

/-- The units are the powers of 1024 with their spellings and labels, the largest first. -/
theorem units_eq :
    units = ((spellings.zip labels).zipIdx.map fun entry =>
      Unit.mk (1024 ^ entry.2) entry.1.1 entry.1.2).reverse := by
  decide

theorem mem_units_iff {unit : Unit} :
    unit ∈ units ↔ ∃ power : Nat, unit.bytes = 1024 ^ power ∧
      spellings[power]? = some unit.spellings ∧ labels[power]? = some unit.label := by
  rw [units_eq, List.mem_reverse, List.mem_map]
  constructor
  · rintro ⟨⟨⟨names, label⟩, power⟩, listed, rfl⟩
    have placed := List.mk_mem_zipIdx_iff_getElem?.1 listed
    rw [List.getElem?_zip_eq_some] at placed
    exact ⟨power, rfl, placed.1, placed.2⟩
  · rintro ⟨power, bytes, spelled, labelled⟩
    refine ⟨((unit.spellings, unit.label), power), ?_, ?_⟩
    · rw [List.mk_mem_zipIdx_iff_getElem?, List.getElem?_zip_eq_some]
      exact ⟨spelled, labelled⟩
    · rw [← bytes]

theorem ofBytes?_eq_some_iff {bytes : Nat} {size : MemorySize} :
    ofBytes? bytes = some size ↔ size.bytes = bytes := by
  unfold ofBytes?
  constructor
  · intro found
    split at found
    · cases found
      rfl
    · cases found
  · rintro rfl
    exact dif_pos size.inRange

theorem ofBytes?_eq_none_iff {bytes : Nat} : ofBytes? bytes = none ↔ wordLimit ≤ bytes := by
  unfold ofBytes?
  split
  · next within => exact iff_of_false (by rintro ⟨⟩) (Nat.not_le.2 within)
  · next beyond => exact iff_of_true rfl (Nat.not_lt.1 beyond)

end MemorySize

namespace Literal

/-! ### The grammar -/

/-- The text names the unit of `1024 ^ power` bytes, in any case; no text names the single
byte. -/
inductive NamesPower (text : List Char) : Nat → Prop where
  | blank (empty : text = []) : NamesPower text 0
  | spelled {power : Nat} {names : List String}
      (listed : MemorySize.spellings[power]? = some names)
      (folded : String.ofList (Text.lower text) ∈ names) : NamesPower text power

/-- The text is a count, in all the digits that stand at its start, of the unit of
`1024 ^ power` bytes, which is named behind them between white space. -/
inductive CountsUnits (text : List Char) : Nat → Nat → Prop where
  | intro {digits rest : List Char} {power : Nat}
      (splits : text = digits ++ rest)
      (counted : digits ≠ [])
      (numeric : ∀ c ∈ digits, c.isDigit = true)
      (ends : ∀ c, rest.head? = some c → c.isDigit = false)
      (named : NamesPower (Text.trim rest) power) :
      CountsUnits text (Text.digitsValue digits) power

/-- A spelling belongs to one unit only. -/
theorem memoryUnit?_spelling :
    ∀ unit ∈ MemorySize.units, ∀ word ∈ unit.spellings, memoryUnit? word = some unit.bytes := by
  decide

/-- The reader of units knows the names of the powers of 1024, and nothing else. -/
theorem memoryUnit?_eq_some_iff {text : List Char} {bytes : Nat} :
    memoryUnit? (String.ofList (Text.lower text)) = some bytes ↔
      ∃ power, NamesPower text power ∧ bytes = 1024 ^ power := by
  constructor
  · intro known
    unfold memoryUnit? at known
    split at known
    · next empty =>
        cases known
        have none : Text.lower text = [] := by simpa using empty
        exact ⟨0, .blank (Text.lower_eq_nil_iff.1 none), rfl⟩
    · obtain ⟨unit, found, rfl⟩ := Option.map_eq_some_iff.1 known
      obtain ⟨power, size, listed, -⟩ :=
        MemorySize.mem_units_iff.1 (List.mem_of_find?_eq_some found)
      have spelled := List.find?_some found
      exact ⟨power, .spelled listed (by simpa using spelled), size⟩
  · rintro ⟨power, named, rfl⟩
    cases named with
    | blank empty =>
        rw [empty]
        rfl
    | @spelled power names listed folded =>
        obtain ⟨label, labelled⟩ : ∃ label, MemorySize.labels[power]? = some label := by
          have within : power < MemorySize.spellings.length :=
            (List.getElem?_eq_some_iff.1 listed).1
          exact ⟨_, List.getElem?_eq_getElem (l := MemorySize.labels) within⟩
        have unit := @MemorySize.mem_units_iff ⟨1024 ^ power, names, label⟩
        exact memoryUnit?_spelling _ (unit.2 ⟨power, rfl, listed, labelled⟩) _ folded

/-! ### What is read -/

variable {text : List Char} {count power : Nat}

/-- A count within 64 bits is read as the bytes it comes to, if these are within 64 bits too. -/
theorem readMemorySize_of_countsUnits (counts : CountsUnits text count power)
    (within : count < wordLimit) :
    readMemorySize text =
      (MemorySize.ofBytes? (count * 1024 ^ power)).elim (.error .outOfRange) .ok := by
  cases counts with
  | @intro digits rest _ splits counted numeric ends named =>
      have unit := memoryUnit?_eq_some_iff.2 ⟨power, named, rfl⟩
      rw [splits]
      simp only [readMemorySize, Text.takeWhile_isDigit_append numeric ends,
        Text.dropWhile_isDigit_append numeric ends, List.isEmpty_iff, counted, if_false,
        if_neg (Nat.not_le.2 within), unit]
      cases MemorySize.ofBytes? (Text.digitsValue digits * 1024 ^ power) <;> rfl

/-- A text that counts no units within 64 bits is unreadable. -/
theorem exists_readMemorySize_eq_unreadable
    (uncounted : ∀ count power, CountsUnits text count power → wordLimit ≤ count) :
    ∃ reason, readMemorySize text = .error (.unreadable reason) := by
  unfold readMemorySize
  dsimp only
  split
  · exact ⟨_, rfl⟩
  next counted =>
  split
  · exact ⟨_, rfl⟩
  next within =>
  cases unit : memoryUnit? (String.ofList
      (Text.lower (Text.trim (text.dropWhile Char.isDigit)))) with
  | none => exact ⟨_, rfl⟩
  | some bytes =>
      obtain ⟨power, named, -⟩ := memoryUnit?_eq_some_iff.1 unit
      refine absurd (uncounted _ power ?_) within
      exact .intro (List.takeWhile_append_dropWhile (p := Char.isDigit) (l := text)).symm
        (by simpa using counted) (fun _ => Text.isDigit_of_mem_takeWhile)
        (fun _ => Text.isDigit_of_head?_dropWhile) named

/-- The reader ends in one of three ways, by what the text counts. -/
theorem readMemorySize_cases (text : List Char) :
    (∃ count power size, CountsUnits text count power ∧ count < wordLimit ∧
      size.bytes = count * 1024 ^ power ∧ readMemorySize text = .ok size) ∨
    (∃ count power, CountsUnits text count power ∧ count < wordLimit ∧
      wordLimit ≤ count * 1024 ^ power ∧ readMemorySize text = .error .outOfRange) ∨
    ((∀ count power, CountsUnits text count power → wordLimit ≤ count) ∧
      ∃ reason, readMemorySize text = .error (.unreadable reason)) := by
  by_cases counted : ∃ count power, CountsUnits text count power ∧ count < wordLimit
  · obtain ⟨count, power, counts, within⟩ := counted
    have reads := readMemorySize_of_countsUnits counts within
    cases found : MemorySize.ofBytes? (count * 1024 ^ power) with
    | some size =>
        rw [found] at reads
        exact .inl ⟨count, power, size, counts, within,
          MemorySize.ofBytes?_eq_some_iff.1 found, reads⟩
    | none =>
        rw [found] at reads
        exact .inr (.inl ⟨count, power, counts, within,
          MemorySize.ofBytes?_eq_none_iff.1 found, reads⟩)
  · have uncounted : ∀ count power, CountsUnits text count power → wordLimit ≤ count :=
      fun count power counts => Nat.not_lt.1 fun within => counted ⟨count, power, counts, within⟩
    exact .inr (.inr ⟨uncounted, exists_readMemorySize_eq_unreadable uncounted⟩)

/-- A text is read as the bytes that its count comes to. -/
theorem readMemorySize_eq_ok_iff {size : MemorySize} :
    readMemorySize text = .ok size ↔
      ∃ count power, CountsUnits text count power ∧ count < wordLimit ∧
        size.bytes = count * 1024 ^ power := by
  constructor
  · intro reads
    rcases readMemorySize_cases text with
      ⟨count, power, other, counts, within, bytes, read⟩ | ⟨_, _, _, _, _, read⟩ | ⟨_, _, read⟩
    · cases reads.symm.trans read
      exact ⟨count, power, counts, within, bytes⟩
    · cases reads.symm.trans read
    · cases reads.symm.trans read
  · rintro ⟨count, power, counts, within, bytes⟩
    rw [readMemorySize_of_countsUnits counts within, MemorySize.ofBytes?_eq_some_iff.2 bytes]
    rfl

/-- A text is out of range if its count comes to more bytes than 64 bits hold. -/
theorem readMemorySize_eq_outOfRange_iff :
    readMemorySize text = .error .outOfRange ↔
      ∃ count power, CountsUnits text count power ∧ count < wordLimit ∧
        wordLimit ≤ count * 1024 ^ power := by
  constructor
  · intro fails
    rcases readMemorySize_cases text with
      ⟨_, _, _, _, _, _, read⟩ | ⟨count, power, counts, within, beyond, -⟩ | ⟨_, _, read⟩
    · cases fails.symm.trans read
    · exact ⟨count, power, counts, within, beyond⟩
    · cases fails.symm.trans read
  · rintro ⟨count, power, counts, within, beyond⟩
    rw [readMemorySize_of_countsUnits counts within, MemorySize.ofBytes?_eq_none_iff.2 beyond]
    rfl

/-- A text is unreadable if it is no count of units within 64 bits. -/
theorem exists_readMemorySize_eq_unreadable_iff :
    (∃ reason, readMemorySize text = .error (.unreadable reason)) ↔
      ∀ count power, CountsUnits text count power → wordLimit ≤ count := by
  refine ⟨?_, exists_readMemorySize_eq_unreadable⟩
  rintro ⟨reason, fails⟩
  rcases readMemorySize_cases text with
    ⟨_, _, _, _, _, _, read⟩ | ⟨_, _, _, _, _, read⟩ | ⟨uncounted, -⟩
  · cases fails.symm.trans read
  · cases fails.symm.trans read
  · exact uncounted

end Literal

/-- Every text is read as a memory size by its grammar: as the bytes of its count if both are
within 64 bits, as out of range if only the count is, and as unreadable otherwise, also where the
count alone is beyond 64 bits. -/
theorem readAs_memorySize_classified (text : String) :
    (∀ bytes, (readAs .memorySize Literal.readMemorySize text).map MemorySize.bytes = .ok bytes ↔
      ∃ count power, Literal.CountsUnits (Text.trim text.toList) count power ∧
        count < wordLimit ∧ bytes = count * 1024 ^ power ∧ bytes < wordLimit) ∧
    (readAs .memorySize Literal.readMemorySize text =
        .error (.failed (.outOfRange (String.ofList (Text.trim text.toList)) .memorySize)) ↔
      ∃ count power, Literal.CountsUnits (Text.trim text.toList) count power ∧
        count < wordLimit ∧ wordLimit ≤ count * 1024 ^ power) ∧
    ((∃ reason, readAs .memorySize Literal.readMemorySize text =
        .error (.failed (.unreadable text .memorySize reason))) ↔
      ∀ count power, Literal.CountsUnits (Text.trim text.toList) count power →
        wordLimit ≤ count) := by
  refine ⟨fun bytes => ?_, ?_, ?_⟩
  · rw [map_eq_ok_iff]
    simp only [readAs_eq_ok_iff, Literal.readMemorySize_eq_ok_iff]
    constructor
    · rintro ⟨size, ⟨count, power, counts, within, product⟩, rfl⟩
      exact ⟨count, power, counts, within, product, size.inRange⟩
    · rintro ⟨count, power, counts, within, product, inRange⟩
      exact ⟨⟨bytes, inRange⟩, ⟨count, power, counts, within, product⟩, rfl⟩
  · rw [readAs_eq_outOfRange_iff, Literal.readMemorySize_eq_outOfRange_iff]
  · simp only [readAs_eq_unreadable_iff, Literal.exists_readMemorySize_eq_unreadable_iff]

/-! ### What is written -/

namespace MemorySize

/-- Of the powers of 1024 that have a unit this is the largest that divides the bytes; no bytes
are counted singly. -/
structure IsHighestPower (bytes power : Nat) : Prop where
  listed : power ≤ 4
  divides : 1024 ^ power ∣ bytes
  single : bytes = 0 → power = 0
  largest : bytes ≠ 0 → ∀ other ≤ 4, 1024 ^ other ∣ bytes → other ≤ power

theorem isHighestPower_of_unit {bytes power : Nat} {unit : Unit}
    (highest : Literal.IsHighestUnit bytes unit) (size : unit.bytes = 1024 ^ power)
    (labelled : labels[power]? = some unit.label) : IsHighestPower bytes power where
  listed := by
    have within : power < labels.length := (List.getElem?_eq_some_iff.1 labelled).1
    exact Nat.le_of_lt_succ within
  divides := size ▸ highest.divides
  single zero := by
    have single := highest.single zero
    rw [size] at single
    exact (Nat.pow_eq_one.1 single).resolve_left (by decide)
  largest nonzero other within divides := by
    have spelled := List.getElem?_eq_getElem (l := spellings) (Nat.lt_succ_of_le within)
    have label := List.getElem?_eq_getElem (l := labels) (Nat.lt_succ_of_le within)
    have listed := (@mem_units_iff ⟨1024 ^ other, _, _⟩).2 ⟨other, rfl, spelled, label⟩
    have smaller := highest.largest nonzero _ listed divides
    rw [size] at smaller
    exact (Nat.pow_le_pow_iff_right (by decide)).1 smaller

/-- A size is written as its count in the largest unit that divides it. -/
theorem exists_text_eq (size : MemorySize) :
    ∃ count power label, IsHighestPower size.bytes power ∧ labels[power]? = some label ∧
      count * 1024 ^ power = size.bytes ∧
      size.text = String.ofList (Text.ofNat count) ++ " " ++ label := by
  obtain ⟨unit, highest, text⟩ := Literal.exists_unit_toList_text size
  obtain ⟨power, bytes, -, labelled⟩ := mem_units_iff.1 highest.listed
  refine ⟨size.bytes / unit.bytes, power, unit.label,
    isHighestPower_of_unit highest bytes labelled, labelled, ?_, ?_⟩
  · rw [← bytes]
    exact Nat.div_mul_cancel highest.divides
  · rw [← String.toList_inj, text]
    simp

end MemorySize

/-- A character that is neither a control character nor a quote nor a backslash stands for itself
in a document. -/
theorem Json.quotedChar_eq {c : Char} (printed : 0x20 ≤ c.toNat) (noQuote : c.toNat ≠ 0x22)
    (noBackslash : c.toNat ≠ 0x5c) : quotedChar c = [c] := by
  have other : ∀ d : Char, c.toNat ≠ d.toNat → c ≠ d := by
    rintro d different rfl
    exact different rfl
  have noControl : ∀ d : Char, d.toNat < 0x20 → c ≠ d := fun d control => other d (by omega)
  simp only [quotedChar, if_neg (other '"' noQuote), if_neg (other '\\' noBackslash),
    if_neg (Nat.not_lt.2 printed), if_neg (noControl '\x08' (by decide)),
    if_neg (noControl '\x0c' (by decide)), if_neg (noControl '\n' (by decide)),
    if_neg (noControl '\r' (by decide)), if_neg (noControl '\t' (by decide))]

/-- The text of a size stands in a document as it is, between quotes. -/
theorem MemorySize.ofText_text (size : MemorySize) :
    Json.ofText size.text = "\"" ++ size.text ++ "\"" := by
  obtain ⟨unit, highest, text⟩ := Literal.exists_unit_toList_text size
  have letters : ∀ unit ∈ units, unit.label.toList.all (97 ≤ ·.toNat) = true := by decide
  have plain : ∀ c ∈ size.text.toList, Json.quotedChar c = [c] := by
    intro c member
    rw [text] at member
    rcases List.mem_append.1 member with digit | behind
    · have bounds := Char.isDigit_iff_toNat.1 (Text.isDigit_of_mem_ofNat digit)
      have low : 48 ≤ c.toNat := bounds.1
      have high : c.toNat ≤ 57 := bounds.2
      exact Json.quotedChar_eq (by omega) (by omega) (by omega)
    rcases List.mem_append.1 behind with blank | letter
    · rw [List.mem_singleton.1 blank]
      rfl
    · have low : 97 ≤ c.toNat := by
        simpa using List.all_eq_true.1 (letters unit highest.listed) c letter
      exact Json.quotedChar_eq (by omega) (by omega) (by omega)
  have same : size.text.toList.flatMap Json.quotedChar = size.text.toList := by
    rw [List.flatMap_congr plain, List.flatMap_singleton']
  rw [Json.ofText, same, ← String.toList_inj]
  simp

/-- A document that holds the text of a size is read as the size. -/
theorem MemorySize.memorySize_tree (size : MemorySize) : size.tree.memorySize = .ok size := by
  rw [MemorySize.tree, Tree.memorySize, Literal.readAs_readMemorySize_text]
  rfl

/-- A document that holds the bytes of a size is read as the size. -/
theorem MemorySize.memorySize_integer (size : MemorySize) :
    (Tree.integer size.bytes).memorySize = .ok size := by
  have word : isWord size.bytes = true := by
    have inRange := size.inRange
    simp only [isWord, Bool.and_eq_true, decide_eq_true_eq]
    omega
  have positive : ¬(size.bytes : Int) < 0 := by omega
  have same : wrap size.bytes = size := by
    simp [wrap, Nat.mod_eq_of_lt size.inRange]
  rw [Tree.memorySize, word, if_neg (by simp), if_neg positive, Int.toNat_natCast, same]

/-- A size is written as its count in the largest unit that divides it, in a document as that text
between quotes, and it is read back from the text, from a document that holds the text, and from
one that holds the count of bytes. -/
theorem MemorySize.text_exact (size : MemorySize) :
    (∃ count power label, IsHighestPower size.bytes power ∧ labels[power]? = some label ∧
      count * 1024 ^ power = size.bytes ∧
      size.text = String.ofList (Text.ofNat count) ++ " " ++ label) ∧
    readAs .memorySize Literal.readMemorySize size.text = .ok size ∧
    size.tree = .text size.text ∧
    size.json = "\"" ++ size.text ++ "\"" ∧
    size.tree.memorySize = .ok size ∧
    (Tree.integer size.bytes).memorySize = .ok size := by
  refine ⟨size.exists_text_eq, ?_, rfl, ?_, ?_, ?_⟩
  · exact Literal.readAs_readMemorySize_text size
  · exact size.ofText_text
  · exact size.memorySize_tree
  · exact size.memorySize_integer

end Settings
