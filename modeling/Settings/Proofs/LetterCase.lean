import Settings.Proofs.Durations.Overruns
import Settings.Proofs.Integers
import Settings.Proofs.Items
import Settings.Proofs.Splitting.Correspondence

/-!
Letter case and white space at the ends of texts.

No reader of literals tells a capital letter of ASCII from the small one: it folds the case
itself, or the letter is wrong in either case.  What it reads has no white space at its ends.
So a text is read like its plain form, the trimmed text in small letters, and a list is read
like the plain forms of its elements, for texts with the same plain form are split to elements
with the same plain forms.
-/

namespace Settings

namespace Text

/-! ### Characters -/

/-- The capital letter of ASCII at a place of the alphabet. -/
def capital (place : Nat) : Char := Char.ofNat (65 + place)

theorem toLower_eq_or_exists_capital (c : Char) :
    c.toLower = c ∨ ∃ place < 26, c = capital place := by
  by_cases bounds : 65 ≤ c.toNat ∧ c.toNat ≤ 90
  · refine .inr ⟨c.toNat - 65, by omega, ?_⟩
    rw [capital, Nat.add_sub_cancel' bounds.1, Char.ofNat_toNat]
  · refine .inl ?_
    delta Char.toLower
    rw [dif_neg]
    intro upper
    exact bounds ⟨UInt32.le_iff_toNat_le.1 upper.1, UInt32.le_iff_toNat_le.1 upper.2⟩

section

variable {α : Type} {c : Char} {text : List Char}

/-- What does not tell the capital letters from the small ones tells no letters apart. -/
theorem apply_toLower {f : Char → α}
    (alike : ∀ place < 26, f (capital place).toLower = f (capital place)) (c : Char) :
    f c.toLower = f c := by
  rcases toLower_eq_or_exists_capital c with same | ⟨place, inside, rfl⟩
  · rw [same]
  · exact alike place inside

theorem toLower_toLower (c : Char) : c.toLower.toLower = c.toLower :=
  apply_toLower (by decide) c

theorem isSpace_toLower (c : Char) : isSpace c.toLower = isSpace c :=
  apply_toLower (by decide) c

theorem isDigit_toLower (c : Char) : c.toLower.isDigit = c.isDigit :=
  apply_toLower (by decide) c

theorem lowerChar_toLower (c : Char) : lowerChar c.toLower = lowerChar c :=
  apply_toLower (by decide) c

theorem upperChar_toLower (c : Char) : upperChar c.toLower = upperChar c :=
  apply_toLower (by decide) c

theorem isCased_toLower (c : Char) : isCased c.toLower = isCased c :=
  apply_toLower (by decide) c

theorem isCaseIgnorable_toLower (c : Char) : isCaseIgnorable c.toLower = isCaseIgnorable c :=
  apply_toLower (by decide +kernel) c

theorem toNat_toLower_eq_sigma_iff (c : Char) : c.toLower.toNat = 0x3A3 ↔ c.toNat = 0x3A3 := by
  simpa using apply_toLower (f := fun c => decide (c.toNat = 0x3A3)) (by decide) c

/-- A character that is no letter is the small form of itself only. -/
theorem toLower_eq_iff {mark : Char}
    (noLetter : ∀ place < 26, (capital place).toLower ≠ mark ∧ capital place ≠ mark) (c : Char) :
    c.toLower = mark ↔ c = mark := by
  rcases toLower_eq_or_exists_capital c with same | ⟨place, inside, rfl⟩
  · rw [same]
  · exact iff_of_false (noLetter place inside).1 (noLetter place inside).2

/-! ### Texts -/

theorem map_toLower_of_isDigit (numeric : ∀ c ∈ text, c.isDigit = true) :
    text.map Char.toLower = text := by
  rw [List.map_congr_left fun c member => toLower_of_isDigit (numeric c member), List.map_id']

theorem map_toLower_map_toLower (text : List Char) :
    (text.map Char.toLower).map Char.toLower = text.map Char.toLower := by
  rw [List.map_map]
  exact List.map_congr_left fun c _ => toLower_toLower c

theorem all_isDigit_map_toLower (text : List Char) :
    (text.map Char.toLower).all Char.isDigit = text.all Char.isDigit := by
  rw [List.all_map]
  exact congrArg text.all (funext isDigit_toLower)

theorem takeWhile_isDigit_map_toLower (text : List Char) :
    (text.map Char.toLower).takeWhile Char.isDigit = text.takeWhile Char.isDigit := by
  have same : Char.isDigit ∘ Char.toLower = Char.isDigit := funext isDigit_toLower
  rw [List.takeWhile_map, same, map_toLower_of_isDigit fun c => isDigit_of_mem_takeWhile]

theorem dropWhile_isDigit_map_toLower (text : List Char) :
    (text.map Char.toLower).dropWhile Char.isDigit =
      (text.dropWhile Char.isDigit).map Char.toLower := by
  have same : Char.isDigit ∘ Char.toLower = Char.isDigit := funext isDigit_toLower
  rw [List.dropWhile_map, same]

theorem upper_map_toLower (text : List Char) : upper (text.map Char.toLower) = upper text := by
  rw [upper, List.flatMap_map]
  exact congrArg text.flatMap (funext upperChar_toLower)

theorem meetsCased_map_toLower (text : List Char) :
    meetsCased (text.map Char.toLower) = meetsCased text := by
  have same : isCaseIgnorable ∘ Char.toLower = isCaseIgnorable := by
    funext c
    rw [Function.comp_apply, isCaseIgnorable_toLower]
  rw [meetsCased, meetsCased, List.dropWhile_map, same]
  cases text.dropWhile isCaseIgnorable with
  | nil => rfl
  | cons c rest => exact isCased_toLower c

theorem lowerAfter_map_toLower (before text : List Char) :
    lowerAfter (before.map Char.toLower) (text.map Char.toLower) = lowerAfter before text := by
  induction text generalizing before with
  | nil => rfl
  | cons c text ih =>
      have others := ih (c :: before)
      rw [List.map_cons] at others
      rw [List.map_cons, lowerAfter, lowerAfter, others, meetsCased_map_toLower,
        meetsCased_map_toLower, lowerChar_toLower]
      simp only [toNat_toLower_eq_sigma_iff]

theorem lower_map_toLower (text : List Char) : lower (text.map Char.toLower) = lower text :=
  lowerAfter_map_toLower [] text

end

end Text

/-! ### Readers of literals -/

namespace Literal

open Text

/-- The reader does not tell capital letters of ASCII from small ones. -/
def IgnoresCase {α : Type} (read : List Char → α) : Prop :=
  ∀ text, read (text.map Char.toLower) = read text

theorem ignoresCase_readMagnitude (bound value : Nat) :
    IgnoresCase (readMagnitude bound value) := by
  intro text
  induction text generalizing value with
  | nil => rfl
  | cons c text ih =>
      rw [List.map_cons, readMagnitude, readMagnitude, isDigit_toLower]
      split
      · next digit =>
          rw [toLower_of_isDigit digit]
          dsimp only
          rw [ih]
      · rfl

theorem ignoresCase_readDigits (bound : Nat) : IgnoresCase (readDigits bound) := by
  intro text
  rw [readDigits, List.isEmpty_map, ignoresCase_readMagnitude, readDigits]

theorem ignoresCase_readInteger {limit : Nat} (positive : 0 < limit) :
    IgnoresCase (readInteger limit) := by
  intro text
  -- Behind the same lead, digits are read alike.
  have alike : ∀ {lead digits : List Char} {bound : Nat} {make : Nat → Int},
      ReadBehind limit lead digits bound make →
      ReadBehind limit lead (digits.map Char.toLower) bound make →
      readInteger limit (lead ++ digits.map Char.toLower) = readInteger limit (lead ++ digits) := by
    intro lead digits bound make behind behind'
    rw [behind.reads, behind'.reads, ignoresCase_readDigits]
  cases text with
  | nil => rfl
  | cons c rest =>
      by_cases minus : c = '-'
      · subst minus
        exact alike (readBehind_minus positive) (readBehind_minus positive)
      by_cases plus : c = '+'
      · subst plus
        exact alike (readBehind_plus positive) (readBehind_plus positive)
      have noMinus : c.toLower ≠ '-' := mt (toLower_eq_iff (by decide) c).1 minus
      have noPlus : c.toLower ≠ '+' := mt (toLower_eq_iff (by decide) c).1 plus
      exact alike (readBehind_unsigned positive minus plus)
        (readBehind_unsigned positive noMinus noPlus)

theorem ignoresCase_readInt : IgnoresCase readInt := by
  intro text
  rw [readInt, ignoresCase_readInteger (by decide), readInt]

theorem ignoresCase_readLong : IgnoresCase readLong := by
  intro text
  rw [readLong, ignoresCase_readInteger (by decide), readLong]

theorem ignoresCase_readBool : IgnoresCase readBool := by
  intro text
  rw [readBool, readBool, upper_map_toLower]

theorem ignoresCase_readMember (set : EnumSet) : IgnoresCase (readMember set) := by
  intro text
  have same : set.lookup (String.ofList (text.map Char.toLower)) =
      set.lookup (String.ofList text) := by
    simp [EnumSet.lookup, EnumSet.key, upper_map_toLower]
  rw [readMember, readMember, same]

/-- A sign has no case. -/
theorem splitSign_map_toLower (text : List Char) :
    splitSign (text.map Char.toLower) =
      ((splitSign text).1, (splitSign text).2.map Char.toLower) := by
  cases text with
  | nil => rfl
  | cons c rest =>
      by_cases minus : c = '-'
      · subst minus
        rfl
      by_cases plus : c = '+'
      · subst plus
        rfl
      have noMinus : c.toLower ≠ '-' := mt (toLower_eq_iff (by decide) c).1 minus
      have noPlus : c.toLower ≠ '+' := mt (toLower_eq_iff (by decide) c).1 plus
      rw [List.map_cons, splitSign_cons noMinus noPlus, splitSign_cons minus plus]
      rfl

theorem ignoresCase_readExponent? : IgnoresCase readExponent? := by
  intro text
  cases text with
  | nil => rfl
  | cons c rest =>
      have mark : (decide (c.toLower = 'e') || decide (c.toLower = 'E')) =
          (decide (c = 'e') || decide (c = 'E')) :=
        apply_toLower (f := fun c => decide (c = 'e') || decide (c = 'E')) (by decide) c
      rw [List.map_cons, readExponent?_cons, readExponent?_cons, mark, splitSign_map_toLower]
      dsimp only
      rw [List.isEmpty_map, all_isDigit_map_toLower]
      split
      · split
        · rfl
        · next run =>
            rw [Bool.not_eq_true, Bool.or_eq_false_iff, Bool.not_eq_false'] at run
            rw [map_toLower_of_isDigit (List.all_eq_true.1 run.2)]
      · rfl

theorem splitPlaces_map_toLower (text : List Char) :
    splitPlaces (text.map Char.toLower) =
      ((splitPlaces text).1, (splitPlaces text).2.map Char.toLower) := by
  cases text with
  | nil => rfl
  | cons c rest =>
      by_cases point : c = '.'
      · subst point
        exact Prod.ext (takeWhile_isDigit_map_toLower rest) (dropWhile_isDigit_map_toLower rest)
      · have noPoint : c.toLower ≠ '.' := mt (toLower_eq_iff (by decide) c).1 point
        rw [List.map_cons, splitPlaces_of_head? (by simpa using noPoint),
          splitPlaces_of_head? (by simpa using point)]
        rfl

theorem ignoresCase_readDecimal? : IgnoresCase readDecimal? := by
  intro text
  rw [readDecimal?_eq, takeWhile_isDigit_map_toLower, dropWhile_isDigit_map_toLower,
    splitPlaces_map_toLower, readDecimal?_eq]
  dsimp only
  rw [ignoresCase_readExponent?]

theorem ignoresCase_readNumeral? : IgnoresCase readNumeral? := by
  intro text
  rw [readNumeral?, readNumeral?, map_toLower_map_toLower, ignoresCase_readDecimal?]

theorem ignoresCase_readRounded? {format : Format} : IgnoresCase (@readRounded? format) := by
  intro text
  simp only [readRounded?, splitSign_map_toLower, ignoresCase_readNumeral? (splitSign text).2]

theorem ignoresCase_mentionsInfinity : IgnoresCase mentionsInfinity := by
  intro text
  rw [mentionsInfinity, mentionsInfinity, lower_map_toLower]

theorem ignoresCase_hasNonzeroMantissa : IgnoresCase hasNonzeroMantissa := by
  intro text
  have mark : ((fun c => !(decide (c = 'e') || decide (c = 'E'))) ∘ Char.toLower) =
      fun c => !(decide (c = 'e') || decide (c = 'E')) :=
    funext (apply_toLower (f := fun c => !(decide (c = 'e') || decide (c = 'E'))) (by decide))
  have digit : ((fun c => decide ('1' ≤ c) && decide (c ≤ '9')) ∘ Char.toLower) =
      fun c => decide ('1' ≤ c) && decide (c ≤ '9') :=
    funext (apply_toLower (f := fun c => decide ('1' ≤ c) && decide (c ≤ '9')) (by decide))
  rw [hasNonzeroMantissa, List.takeWhile_map, List.any_map, mark, digit, hasNonzeroMantissa]

theorem ignoresCase_readBinary {format : Format} : IgnoresCase (@readBinary format) := by
  intro text
  rw [readBinary, List.isEmpty_map, ignoresCase_readRounded?, ignoresCase_mentionsInfinity,
    ignoresCase_hasNonzeroMantissa, readBinary]

theorem ignoresCase_readDuration : IgnoresCase readDuration := by
  intro text
  by_cases digits : text.all Char.isDigit = true
  · rw [map_toLower_of_isDigit (List.all_eq_true.1 digits)]
  · rw [readDuration, List.isEmpty_map, all_isDigit_map_toLower, if_neg digits, lower_map_toLower,
      readDuration, if_neg digits]

theorem ignoresCase_readMemorySize : IgnoresCase readMemorySize := by
  intro text
  rw [readMemorySize, takeWhile_isDigit_map_toLower, dropWhile_isDigit_map_toLower,
    trim_map isSpace_toLower, lower_map_toLower, readMemorySize]

end Literal

/-! ### Plain forms -/

namespace Text

/-- The trimmed text in the small letters of ASCII. -/
def plain (text : List Char) : List Char := (trim text).map Char.toLower

/-- The other text is the text with letters of ASCII in another case and with white space added
at its ends. -/
inductive Recased (text : List Char) : List Char → Prop where
  | intro {before middle after : List Char} (blankBefore : isBlank before = true)
      (blankAfter : isBlank after = true)
      (letters : middle.map Char.toLower = text.map Char.toLower) :
      Recased text (before ++ middle ++ after)

theorem plain_map_toLower (text : List Char) : plain (text.map Char.toLower) = plain text := by
  rw [plain, trim_map isSpace_toLower, map_toLower_map_toLower, plain]

theorem Recased.plain_eq {text other : List Char} (recased : Recased text other) :
    plain other = plain text := by
  cases recased with
  | @intro before middle after blankBefore blankAfter letters =>
      rw [plain, trim_append_of_isBlank blankAfter, trim_blank_append blankBefore, ← plain,
        ← plain_map_toLower, letters, plain_map_toLower]

theorem spares_toLower : Spares elementDelimiter Char.toLower where
  quote_iff := toLower_eq_iff (by decide)
  delimiter_iff := toLower_eq_iff (by decide)
  isSpace_eq := isSpace_toLower

/-- Texts with the same plain form are split to elements with the same plain forms. -/
theorem toOption_split_of_plain_eq {text other : List Char} (same : plain other = plain text) :
    (split elementDelimiter other).toOption.map (List.map (List.map Char.toLower)) =
      (split elementDelimiter text).toOption.map (List.map (List.map Char.toLower)) := by
  have notQuote : elementDelimiter ≠ quote := by decide
  have folded : ∀ text, (split elementDelimiter (plain text)).toOption =
      (split elementDelimiter text).toOption.map (List.map (List.map Char.toLower)) := by
    intro text
    rw [plain, spares_toLower.toOption_split_map notQuote,
      toOption_split_trim notQuote (by decide)]
  rw [← folded, ← folded, same]

end Text

open Literal Text
open Outcome (byKind)

/-- The type is neither of texts, secrets or maps nor of lists of them. -/
structure Tag.OfLiterals (tag : Tag) : Prop where
  noText : tag.innermost ≠ .text
  noSecret : tag.innermost ≠ .secret
  noMap : tag.innermost ≠ .map

section

variable {text other : String}

theorem byKind_readAs_of_plain_eq {α : Type} {read : List Char → Except ReadFailure α}
    (ignores : IgnoresCase read) (target : Target)
    (same : plain other.toList = plain text.toList) :
    byKind (readAs target read other) = byKind (readAs target read text) := by
  rw [byKind_readAs, byKind_readAs, ← ignores, ← ignores (trim text.toList), ← plain, ← plain,
    same]

theorem byKind_coerce_scalar_of_plain_eq {tag : Tag} (scalar : tag.isList = false)
    (literals : tag.OfLiterals) (same : plain other.toList = plain text.toList) :
    byKind (coerce tag (.text other)) = byKind (coerce tag (.text text)) := by
  have reads : ∀ {α : Type} {read : List Char → Except ReadFailure α} {target : Target}
      (make : α → Value), IgnoresCase read →
      byKind ((readAs target read other).map make) =
        byKind ((readAs target read text).map make) := by
    intro α read target make ignores
    rw [Outcome.byKind_map, Outcome.byKind_map, byKind_readAs_of_plain_eq ignores target same]
  unfold coerce
  rw [Outcome.byKind_maskedIf, Outcome.byKind_maskedIf]
  cases tag with
  | int => exact reads _ ignoresCase_readInt
  | long => exact reads _ ignoresCase_readLong
  | bool => exact reads _ ignoresCase_readBool
  | float => exact reads _ ignoresCase_readBinary
  | double => exact reads _ ignoresCase_readBinary
  | text => exact absurd rfl literals.noText
  | secret => exact absurd rfl literals.noSecret
  | member set => exact reads _ (ignoresCase_readMember set)
  | duration => exact reads _ ignoresCase_readDuration
  | memorySize => exact reads _ ignoresCase_readMemorySize
  | map => exact absurd rfl literals.noMap
  | list element => cases scalar

/-- By kind, a list is read as its elements are, and a text that is not split is malformed. -/
theorem byKind_coerce_list_text {element : Tag} (scalar : element.isList = false)
    (text : String) :
    byKind (coerce (.list element) (.text text)) =
      match (split elementDelimiter text.toList).toOption with
      | none => .error (.failed .malformedEntry)
      | some items =>
        (byKind (items.mapM fun item => coerce element (.text (String.ofList item)))).map
          .list := by
  obtain ⟨hide, reads⟩ := readsItems_list scalar text
  rw [reads, Outcome.byKind_maskedIf, splitText]
  cases split elementDelimiter text.toList with
  | error fault => rfl
  | ok items =>
      have each : (items.map String.ofList).mapM (fun item => coerce element (.text item)) =
          items.mapM fun item => coerce element (.text (String.ofList item)) := List.mapM_map
      exact (Outcome.byKind_map _ Value.list).trans (by rw [each]; rfl)

/-- A list is read like the list of the elements in small letters. -/
theorem byKind_mapM_coerce_map_toLower {element : Tag} (scalar : element.isList = false)
    (literals : element.OfLiterals) (items : List (List Char)) :
    byKind ((items.map (List.map Char.toLower)).mapM fun item =>
        coerce element (.text (String.ofList item))) =
      byKind (items.mapM fun item => coerce element (.text (String.ofList item))) := by
  rw [List.mapM_map]
  apply Outcome.byKind_mapM_congr
  intro item _
  apply byKind_coerce_scalar_of_plain_eq scalar literals
  rw [String.toList_ofList, String.toList_ofList, plain_map_toLower]

/-- A text is read under a type of literals like every text with the same plain form. -/
theorem byKind_coerce_of_plain_eq {tag : Tag} (literals : tag.OfLiterals)
    (same : plain other.toList = plain text.toList) :
    byKind (coerce tag (.text other)) = byKind (coerce tag (.text text)) := by
  cases tag with
  | list element =>
      cases scalar : element.isList with
      | true =>
          rw [coerce, coerce, if_pos scalar, if_pos scalar, Outcome.byKind_maskedIf,
            Outcome.byKind_maskedIf]
      | false =>
          have inner : element.OfLiterals := ⟨literals.noText, literals.noSecret, literals.noMap⟩
          have folded := toOption_split_of_plain_eq same
          rw [byKind_coerce_list_text scalar, byKind_coerce_list_text scalar]
          cases first : (split elementDelimiter other.toList).toOption with
          | none =>
              rw [first] at folded
              rw [Option.map_eq_none_iff.1 folded.symm]
          | some items =>
              rw [first] at folded
              obtain ⟨items', second, folds⟩ := Option.map_eq_some_iff.1 folded.symm
              rw [second]
              dsimp only
              rw [← byKind_mapM_coerce_map_toLower scalar inner, ← folds,
                byKind_mapM_coerce_map_toLower scalar inner]
  | _ => exact byKind_coerce_scalar_of_plain_eq rfl literals same

/-- White space at the ends of a text and the case of its letters in ASCII do not change how it is
read, unless a component of a duration in it fills the last second: both texts give the same
value, or both fail with errors of the same kind.  If one of them is abandoned, so is the
other. -/
theorem agrees_coerce_recased_iff {tag : Tag} (literals : tag.OfLiterals)
    (recased : Recased text.toList other.toList) :
    byKind (coerce tag (.text text)) = byKind (coerce tag (.text other)) ∧
      (Outcome.Agrees (coerce tag (.text text)) (coerce tag (.text other)) ↔
        ∀ literal, ReadsDuration tag text literal →
          ¬FillsLastSecond (lower (trim literal.toList))) := by
  have alike := byKind_coerce_of_plain_eq literals recased.plain_eq
  refine ⟨alike.symm, ?_⟩
  rw [Outcome.agrees_iff_of_byKind alike.symm, aborts_coerce_iff, abandons_text_iff]
  simp only [overruns_iff, not_exists, not_and]

/-- The units of a list of durations in other cases, between white space of two scripts. -/
theorem agrees_coerce_recased_durations :
    Outcome.Agrees (coerce (.list .duration) (.text "1h, '2 MIN'"))
      (coerce (.list .duration) (.text "\u30001H, '2 min' ")) := by
  have letters : "1H, '2 min'".toList.map Char.toLower =
      "1h, '2 MIN'".toList.map Char.toLower := by decide
  have recased : Recased "1h, '2 MIN'".toList "\u30001H, '2 min' ".toList :=
    @Recased.intro _ ['\u3000'] _ [' '] (by decide) (by decide) letters
  refine (agrees_coerce_recased_iff ⟨by decide, by decide, by decide⟩ recased).2.2 ?_
  intro literal reads fills
  have aborts : Outcome.Aborts (coerce (.list .duration) (.text "1h, '2 MIN'")) :=
    aborts_coerce_iff.2 (abandons_text_iff.2 ⟨literal, reads, overruns_iff.2 fills⟩)
  have splits : splitText elementDelimiter "1h, '2 MIN'" = .ok ["1h", "2 MIN"] := by cbv
  have completes : coerce (.list .duration) (.text "1h, '2 MIN'") =
      .ok (.list [.duration ⟨3600000000000, by decide⟩, .duration ⟨120000000000, by decide⟩]) := by
    rw [coerce_list rfl, Value.toElements_text, splits]
    rfl
  rw [completes] at aborts
  exact Outcome.not_aborts_ok aborts

/-- The seconds that reach the greatest duration, and nanoseconds that fill one more, are neither
read nor refused in small or in capital letters. -/
theorem not_agrees_coerce_recased :
    Recased "18446744073709551615s 1000000000ns".toList
        " 18446744073709551615S 1000000000NS".toList ∧
      coerce .duration (.text "18446744073709551615s 1000000000ns") =
        .error (.aborted .durationCarry) ∧
      ¬Outcome.Agrees (coerce .duration (.text "18446744073709551615s 1000000000ns"))
        (coerce .duration (.text " 18446744073709551615S 1000000000NS")) := by
  have letters : "18446744073709551615S 1000000000NS".toList.map Char.toLower =
      "18446744073709551615s 1000000000ns".toList.map Char.toLower := by decide
  have aborts : coerce .duration (.text "18446744073709551615s 1000000000ns") =
      .error (.aborted .durationCarry) := by rfl
  refine ⟨@Recased.intro _ [' '] _ [] (by decide) (by decide) letters, aborts, ?_⟩
  rw [aborts]
  rintro ⟨⟩

end

end Settings
