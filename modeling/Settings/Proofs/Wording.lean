import Settings.ConversionError
import Settings.Proofs.Digits
import Settings.Proofs.Failures

/-!
The characters that the messages of errors can hold.

The fixed wording of the messages is in ASCII, with the sign of microseconds in the list
of units of time.  Any other character in a message comes from what the error quotes: the
input, the set of an enumeration, or a unit of memory that is not known.
-/

namespace Settings

/-! ### Characters of composed texts -/

section

variable {c : Char}

theorem mem_append_iff {left right : String} :
    c ∈ (left ++ right).toList ↔ c ∈ left.toList ∨ c ∈ right.toList := by
  rw [String.toList_append]
  exact List.mem_append

theorem notMem_append {left right : String} (atLeft : c ∉ left.toList)
    (atRight : c ∉ right.toList) : c ∉ (left ++ right).toList := by
  intro member
  rcases mem_append_iff.1 member with inLeft | inRight
  · exact atLeft inLeft
  · exact atRight inRight

theorem notMem_intercalate {separator : String} {texts : List String}
    (between : c ∉ separator.toList) (each : ∀ text ∈ texts, c ∉ text.toList) :
    c ∉ (separator.intercalate texts).toList := by
  induction texts with
  | nil => simp
  | cons text rest ih =>
      have first := each text (List.mem_cons_self ..)
      have others := ih fun text listed => each text (List.mem_cons_of_mem _ listed)
      cases rest with
      | nil => rwa [String.intercalate_singleton]
      | cons next rest =>
          rw [String.intercalate_cons_cons]
          exact notMem_append (notMem_append first between) others

end

/-! ### Wording -/

/-- A character that no fixed wording holds: the messages are in ASCII but for the sign of
microseconds. -/
def Foreign (c : Char) : Prop := 128 ≤ c.toNat ∧ c ≠ 'µ'

instance (c : Char) : Decidable (Foreign c) :=
  inferInstanceAs (Decidable (_ ∧ _))

/-- A text that a message may hold whatever the input is. -/
def Wording (text : String) : Prop := ∀ c ∈ text.toList, ¬Foreign c

theorem Foreign.notMem {c : Char} (foreign : Foreign c) {text : String} (wording : Wording text) :
    c ∉ text.toList :=
  fun member => wording c member foreign

theorem Wording.append {left right : String} (atLeft : Wording left) (atRight : Wording right) :
    Wording (left ++ right) := by
  intro c member
  rcases mem_append_iff.1 member with inLeft | inRight
  · exact atLeft c inLeft
  · exact atRight c inRight

/-- A text given by its letters. -/
theorem wording_ofList {letters : List Char} (fixed : ∀ c ∈ letters, ¬Foreign c) :
    Wording (String.ofList letters) := by
  intro c member
  rw [String.toList_ofList] at member
  exact fixed c member

/-- A literal, which unifies with the text of its letters: the letters are then looked at
one by one, and the literal is never decoded. -/
theorem wording_literal {letters : List Char}
    (fixed : letters.all (fun c => !decide (Foreign c)) = true) :
    Wording (String.ofList letters) := by
  apply wording_ofList
  simpa using fixed

theorem wording_ofNat (n : Nat) : Wording (String.ofList (Text.ofNat n)) := by
  apply wording_ofList
  intro c member foreign
  have digit := Char.isDigit_iff_toNat.1 (Text.isDigit_of_mem_ofNat member)
  have small : c.toNat ≤ 57 := digit.2
  exact Nat.not_le.2 (Nat.lt_of_le_of_lt small (by decide)) foreign.1

/-- A letter of a unit is a letter of ASCII or the sign of microseconds. -/
theorem not_foreign_of_isUnitLetter {c : Char} (letter : Literal.isUnitLetter c = true) :
    ¬Foreign c := by
  intro foreign
  have ascii : ∀ last : Char, last.toNat < 128 → ¬c.val ≤ last.val := by
    intro last small within
    have bound : c.toNat ≤ last.toNat := UInt32.le_iff_toNat_le.1 within
    exact Nat.not_le.2 (Nat.lt_of_le_of_lt bound small) foreign.1
  rcases Bool.or_eq_true_iff.1 letter with alpha | micro
  · rcases Bool.or_eq_true_iff.1 alpha with upper | lower
    · exact ascii 'Z' (by decide) (of_decide_eq_true upper).2
    · exact ascii 'z' (by decide) (of_decide_eq_true (Bool.and_eq_true_iff.1 lower).2)
  · exact foreign.2 (beq_iff_eq.1 micro)

/-- A fixed reason tells nothing of the text that was read. -/
theorem Reason.Fixed.wording {reason : Reason} (fixed : reason.Fixed) :
    Wording reason.message := by
  cases reason with
  | notMember members => exact fixed.elim
  | unknownMemoryUnit unit => exact fixed.elim
  | duration fault =>
      cases fault with
      | numberExpected offset =>
          exact (wording_literal rfl).append (wording_ofNat offset)
      | invalidCharacter offset =>
          exact (wording_literal rfl).append (wording_ofNat offset)
      | unknownUnit letters =>
          have quoted : Wording (String.ofList letters) :=
            wording_ofList fun c member => not_foreign_of_isUnitLetter (fixed c member)
          apply Wording.append
          · apply Wording.append
            · exact (wording_literal rfl).append quoted
            · exact wording_literal rfl
          · exact wording_literal rfl
      | unitNeeded count =>
          have number := wording_ofNat count
          apply Wording.append
          · apply Wording.append
            · apply Wording.append
              · exact (wording_literal rfl).append number
              · exact wording_literal rfl
            · exact number
          · exact wording_literal rfl
      | unrepresentable =>
          exact (wording_literal rfl).append (wording_literal rfl)
  | emptyInteger | invalidDigit | notBoolean | emptyFloat | invalidFloat | emptyDuration
  | noLeadingNumber | numberTooLong => exact wording_literal rfl

theorem EntryFault.wording (fault : EntryFault) : Wording fault.message := by
  cases fault with
  | quoting fault =>
      cases fault with
      | unclosed position =>
          apply Wording.append
          · exact (wording_literal rfl).append (wording_ofNat position)
          · exact wording_literal rfl
      | textAfterQuotes position =>
          exact (wording_literal rfl).append (wording_ofNat position)
  | notPair parts =>
      apply Wording.append
      · exact (wording_literal rfl).append (wording_ofNat parts)
      · exact wording_literal rfl

/-- The mask that stands for secrets is in ASCII. -/
theorem wording_mask : Wording Secret.mask :=
  wording_literal rfl

/-! ### Names -/

/-- The set of an enumeration in the type has the character in its name or in a member. -/
def Tag.Mentions (tag : Tag) (c : Char) : Prop :=
  ∃ set, tag.innermost = .member set ∧
    (c ∈ set.name.toList ∨ ∃ name ∈ set.members, c ∈ name.toList)

section

variable {c : Char}

/-- A fixed wording around a part without the character. -/
theorem Foreign.notMem_around (foreign : Foreign c) {opening inner closing : String}
    (before : Wording opening) (inside : c ∉ inner.toList) (after : Wording closing) :
    c ∉ (opening ++ inner ++ closing).toList :=
  notMem_append (notMem_append (foreign.notMem before) inside) (foreign.notMem after)

/-- The name of a type holds no foreign character but those of the set of an enumeration. -/
theorem Tag.notMem_name (foreign : Foreign c) {tag : Tag} (unmentioned : ¬tag.Mentions c) :
    c ∉ tag.name.toList := by
  induction tag with
  | list element ih =>
      have inner : c ∉ element.name.toList := ih unmentioned
      exact foreign.notMem_around (wording_literal rfl) inner (wording_literal rfl)
  | member set =>
      have members : ∀ name ∈ set.members, c ∉ name.toList :=
        fun name listed member => unmentioned ⟨set, rfl, .inr ⟨name, listed, member⟩⟩
      have separator : c ∉ "|".toList := foreign.notMem (wording_literal rfl)
      have listed := notMem_intercalate separator members
      exact foreign.notMem_around (wording_literal rfl) listed (wording_literal rfl)
  | _ => exact foreign.notMem (wording_literal rfl)

end

/-- The kind of literal that a text under a type, or an element of it, is read as. -/
def Tag.target? (tag : Tag) : Option Target :=
  match tag.innermost with
  | .int => some .int
  | .long => some .long
  | .bool => some .bool
  | .float => some .float
  | .double => some .double
  | .member set => some (.member set.name)
  | .duration => some .duration
  | .memorySize => some .memorySize
  | _ => none

/-- The name of the literal in messages holds no foreign character but those of the set. -/
theorem Target.notMem_name {c : Char} (foreign : Foreign c) {tag : Tag} {target : Target}
    (unmentioned : ¬tag.Mentions c) (aimed : tag.target? = some target) :
    c ∉ target.name.toList := by
  rw [Tag.target?] at aimed
  cases inner : tag.innermost with
  | member set =>
      rw [inner] at aimed
      cases aimed
      apply notMem_append
      · exact foreign.notMem (wording_literal rfl)
      · exact fun member => unmentioned ⟨set, inner, .inl member⟩
  | text | secret | map | list =>
      rw [inner] at aimed
      cases aimed
  | _ =>
      rw [inner] at aimed
      cases aimed
      exact foreign.notMem (wording_literal rfl)

/-- The reason about a member lists the members and nothing else. -/
theorem Reason.notMem_notMember {c : Char} (foreign : Foreign c) {members : List String}
    (each : ∀ name ∈ members, c ∉ name.toList) :
    c ∉ (Reason.notMember members).message.toList := by
  have separator : c ∉ ", ".toList := foreign.notMem (wording_literal rfl)
  have listed := notMem_intercalate separator each
  exact foreign.notMem_around (wording_literal rfl) listed (wording_literal rfl)

/-- The reason about a unit tells the unit and nothing else. -/
theorem Reason.notMem_unknownMemoryUnit {c : Char} (foreign : Foreign c) {unit : String}
    (outside : c ∉ unit.toList) : c ∉ (Reason.unknownMemoryUnit unit).message.toList :=
  foreign.notMem_around (wording_literal rfl) outside (wording_literal rfl)

theorem Reason.mem_unknownMemoryUnit {c : Char} {unit : String} (inside : c ∈ unit.toList) :
    c ∈ (Reason.unknownMemoryUnit unit).message.toList := by
  apply mem_append_iff.2
  left
  apply mem_append_iff.2
  exact .inr inside

/-! ### Masked errors -/

namespace ConversionError

/-- What masking leaves of the error about a unit of memory that is not known. -/
def unknownUnit (unit : String) : ConversionError :=
  .unreadable Secret.mask .memorySize (.unknownMemoryUnit unit)

/-- A masked error about a literal tells the name of the type and the reason. -/
theorem notMem_masked_unreadable {c : Char} (foreign : Foreign c) {value : String}
    {target : Target} {reason : Reason} (name : c ∉ target.name.toList)
    (because : c ∉ reason.message.toList) :
    c ∉ (unreadable value target reason).masked.message.toList := by
  have opening : Wording ("Could not parse value '" ++ Secret.mask ++ "' as ") :=
    ((wording_literal rfl).append wording_mask).append (wording_literal rfl)
  have about := foreign.notMem_around opening name (wording_literal rfl : Wording ": ")
  exact notMem_append about because

/-- A masked error about the range of a literal tells the name of the type. -/
theorem notMem_masked_outOfRange {c : Char} (foreign : Foreign c) {value : String}
    {target : Target} (name : c ∉ target.name.toList) :
    c ∉ (outOfRange value target).masked.message.toList := by
  have opening : Wording ("Configuration value " ++ Secret.mask ++
      " overflows/underflows the ") :=
    ((wording_literal rfl).append wording_mask).append (wording_literal rfl)
  exact foreign.notMem_around opening name (wording_literal rfl)

/-- A masked error about an entry tells nothing but a position or a number of parts. -/
theorem wording_masked_malformedEntry (entry : String) (fault : EntryFault) :
    Wording (malformedEntry entry fault).masked.message := by
  have opening : Wording ("Malformed entry '" ++ Secret.mask ++ "': ") :=
    ((wording_literal rfl).append wording_mask).append (wording_literal rfl)
  exact opening.append fault.wording

end ConversionError

end Settings
