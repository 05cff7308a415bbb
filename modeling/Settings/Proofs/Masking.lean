import Settings.Coercion
import Settings.Proofs.CanonicalText
import Settings.Proofs.Traversals
import Settings.Proofs.Wording

/-!
What a coercion tells about secrets.

Masking replaces the part of an error that quotes input and keeps its reason.  Every
coercion ends with one of a few kinds of errors, and of their reasons only one holds a
piece of the text that was read: the unit that the reader of memory sizes does not know.
So the errors about secrets that tell anything of the input are exactly the errors about
such a unit.
-/

namespace Settings

/-! ### Errors of coercions -/

theorem Tag.innermost_of_isList {tag : Tag} (scalar : tag.isList = false) :
    tag.innermost = tag := by
  cases tag with
  | list element => cases scalar
  | _ => rfl

/-- The errors that a coercion to a type can end with.  Errors about elements of a list are
those of the type of the elements. -/
inductive Tag.Reports : Tag → ConversionError → Prop where
  | fixed {tag : Tag} {target : Target} {reason : Reason} (value : String)
      (aimed : tag.target? = some target) (fixed : reason.Fixed) :
      Reports tag (.unreadable value target reason)
  | notMember {tag : Tag} {set : EnumSet} (value : String) (aimed : tag.innermost = .member set) :
      Reports tag (.unreadable value (.member set.name) (.notMember set.members))
  | unknownUnit {tag : Tag} (value unit : String) (aimed : tag.innermost = .memorySize) :
      Reports tag (.unreadable value .memorySize (.unknownMemoryUnit unit))
  | outOfRange {tag : Tag} {target : Target} (value : String)
      (aimed : tag.target? = some target) : Reports tag (.outOfRange value target)
  | malformedEntry {tag : Tag} (entry : String) (fault : EntryFault) :
      Reports tag (.malformedEntry entry fault)
  | unsupported {element : Tag} (nested : element.isList = true) :
      Reports (.list element) (.unsupported (Tag.list element).name)

/-- The error about a unit tells the unit. -/
theorem ConversionError.mem_unknownUnit {c : Char} {unit : String} (inside : c ∈ unit.toList) :
    c ∈ (unknownUnit unit).message.toList := by
  apply mem_append_iff.2
  exact .inr (Reason.mem_unknownMemoryUnit inside)

theorem ConversionError.masked_masked (error : ConversionError) :
    error.masked.masked = error.masked := by
  cases error <;> rfl

theorem ConversionError.masked_of_maskedIf {α : Type} {outcome : Outcome ConversionError α}
    {error : ConversionError} (fails : Outcome.maskedIf true outcome = .error (.failed error)) :
    error.masked = error := by
  cases outcome with
  | ok value => cases fails
  | error stop =>
      cases stop with
      | failed inner =>
          cases fails
          exact inner.masked_masked
      | aborted cause => cases fails

namespace Tag.Reports

/-- Masking changes the input that an error quotes and nothing else about it. -/
theorem masked {tag : Tag} {error : ConversionError} (reports : tag.Reports error) :
    tag.Reports error.masked := by
  cases reports with
  | fixed value aimed fixed => exact Reports.fixed _ aimed fixed
  | notMember value aimed => exact Reports.notMember _ aimed
  | unknownUnit value unit aimed => exact Reports.unknownUnit _ unit aimed
  | outOfRange value aimed => exact Reports.outOfRange _ aimed
  | malformedEntry entry fault => exact Reports.malformedEntry _ fault
  | unsupported nested => exact Reports.unsupported nested

/-- The errors about an element are errors about the list. -/
theorem list {element : Tag} {error : ConversionError} (scalar : element.isList = false)
    (reports : element.Reports error) : (Tag.list element).Reports error := by
  cases reports with
  | fixed value aimed fixed => exact Reports.fixed value aimed fixed
  | notMember value aimed => exact Reports.notMember value aimed
  | unknownUnit value unit aimed => exact Reports.unknownUnit value unit aimed
  | outOfRange value aimed => exact Reports.outOfRange value aimed
  | malformedEntry entry fault => exact Reports.malformedEntry entry fault
  | unsupported nested => cases scalar

/-- A masked error tells foreign characters of a unit of memory and nothing else. -/
theorem exists_unit_of_mem {tag : Tag} {error : ConversionError} {c : Char}
    (reports : tag.Reports error) (foreign : Foreign c) (unmentioned : ¬tag.Mentions c)
    (told : c ∈ error.masked.message.toList) :
    ∃ unit, error.masked = .unknownUnit unit ∧ c ∈ unit.toList := by
  cases reports with
  | fixed value aimed fixed =>
      have name := Target.notMem_name foreign unmentioned aimed
      have reason := foreign.notMem fixed.wording
      exact absurd told (ConversionError.notMem_masked_unreadable foreign name reason)
  | @notMember _ set value aimed =>
      have target : tag.target? = some (.member set.name) := by rw [Tag.target?, aimed]
      have members : ∀ name ∈ set.members, c ∉ name.toList :=
        fun name listed member => unmentioned ⟨set, aimed, .inr ⟨name, listed, member⟩⟩
      have name := Target.notMem_name foreign unmentioned target
      have reason := Reason.notMem_notMember foreign members
      exact absurd told (ConversionError.notMem_masked_unreadable foreign name reason)
  | unknownUnit value unit aimed =>
      by_cases inside : c ∈ unit.toList
      · exact ⟨unit, rfl, inside⟩
      · have name : c ∉ Target.memorySize.name.toList := foreign.notMem (wording_literal rfl)
        have reason := Reason.notMem_unknownMemoryUnit foreign inside
        exact absurd told (ConversionError.notMem_masked_unreadable foreign name reason)
  | outOfRange value aimed =>
      have name := Target.notMem_name foreign unmentioned aimed
      exact absurd told (ConversionError.notMem_masked_outOfRange foreign name)
  | malformedEntry entry fault =>
      exact absurd told (foreign.notMem (ConversionError.wording_masked_malformedEntry _ fault))
  | unsupported nested =>
      have opening : c ∉ "Unsupported type: ".toList := foreign.notMem (wording_literal rfl)
      exact absurd told (notMem_append opening (Tag.notMem_name foreign unmentioned))

/-- Only a type of memory sizes reports a unit. -/
theorem innermost_of_unknownUnit {tag : Tag} {error : ConversionError} {unit : String}
    (reports : tag.Reports error) (named : error.masked = .unknownUnit unit) :
    tag.innermost = .memorySize := by
  cases reports with
  | fixed value aimed fixed =>
      cases named
      exact fixed.elim
  | unknownUnit value unit aimed => exact aimed
  | notMember | outOfRange | malformedEntry | unsupported => cases named

end Tag.Reports

/-- The coercion reports the error, or is abandoned, which only durations can make it. -/
def Stop.Reports (tag : Tag) : Stop ConversionError → Prop
  | .failed error => tag.Reports error
  | .aborted _ => tag.innermost = .duration

theorem Stop.Reports.list {element : Tag} {stop : Stop ConversionError}
    (scalar : element.isList = false) (reports : stop.Reports element) :
    stop.Reports (.list element) := by
  cases stop with
  | failed error => exact Tag.Reports.list scalar reports
  | aborted cause => exact reports

theorem FailsWithin.maskedIf {α : Type} {tag : Tag} {outcome : Outcome ConversionError α}
    (hide : Bool) (within : FailsWithin (Stop.Reports tag) outcome) :
    FailsWithin (Stop.Reports tag) (Outcome.maskedIf hide outcome) := by
  cases hide with
  | false => exact within
  | true =>
      cases outcome with
      | ok value => exact Ends.ok trivial
      | error stop =>
          cases stop with
          | failed error => exact Ends.error (Tag.Reports.masked within)
          | aborted cause => exact within

/-- How a reader may end if its reading is to report what a type reports. -/
def ReadFailure.Reports (tag : Tag) (target : Target) (text : String) : ReadFailure → Prop
  | .unreadable reason => tag.Reports (.unreadable text target reason)
  | .outOfRange => True
  | .aborted _ => tag.innermost = .duration

/-- A reading reports its reasons about the whole text. -/
theorem failsWithin_readAs {α : Type} {tag : Tag} {target : Target}
    {read : List Char → Except ReadFailure α} {text : String}
    (aimed : tag.target? = some target)
    (within : FailsWithin (ReadFailure.Reports tag target text) (read (Text.trim text.toList))) :
    FailsWithin (Stop.Reports tag) (readAs target read text) := by
  cases result : read (Text.trim text.toList) with
  | ok value =>
      simp only [readAs, result]
      exact Ends.ok trivial
  | error failure =>
      rw [result] at within
      simp only [readAs, result]
      cases failure with
      | unreadable reason => exact within
      | outOfRange => exact Tag.Reports.outOfRange _ aimed
      | aborted cause => exact within

/-- A reading with fixed reasons that is not abandoned. -/
theorem failsWithin_readAs_of_plain {α : Type} {tag : Tag} {target : Target}
    {read : List Char → Except ReadFailure α} (aimed : tag.target? = some target)
    (plain : ∀ text, FailsWithin ReadFailure.Plain (read text)) (text : String) :
    FailsWithin (Stop.Reports tag) (readAs target read text) := by
  apply failsWithin_readAs aimed
  apply (plain _).mono
  intro failure plain
  cases failure with
  | unreadable reason => exact Tag.Reports.fixed text aimed plain
  | outOfRange => trivial
  | aborted cause => exact plain.elim

theorem Literal.failsWithin_readBool (text : List Char) :
    FailsWithin ReadFailure.Plain (readBool text) := by
  unfold readBool
  dsimp only
  split
  · exact Ends.ok trivial
  split
  · exact Ends.ok trivial
  · exact Ends.error trivial

theorem failsWithin_splitText (tag : Tag) (delimiter : Char) (text : String) :
    FailsWithin tag.Reports (splitText delimiter text) := by
  rw [splitText]
  split
  · exact Ends.ok trivial
  · exact Ends.error (Tag.Reports.malformedEntry _ _)

theorem failsWithin_readEntry (tag : Tag) (entry : String) :
    FailsWithin tag.Reports (readEntry entry) := by
  rw [readEntry]
  apply (failsWithin_splitText tag _ _).bind
  intro parts _
  split
  · exact Ends.pure trivial
  · exact Ends.error (Tag.Reports.malformedEntry _ _)

theorem failsWithin_readMap (tag : Tag) (text : String) :
    FailsWithin tag.Reports (readMap text) := by
  rw [readMap]
  apply (failsWithin_splitText tag _ _).bind
  intro entries _
  have each : FailsWithin tag.Reports (entries.mapM readEntry) :=
    FailsWithin.mapM fun entry _ => failsWithin_readEntry tag entry
  apply each.bind
  intro entries _
  exact Ends.pure trivial

theorem FailsWithin.ofExcept {α : Type} {tag : Tag} {result : Except ConversionError α}
    (within : FailsWithin tag.Reports result) :
    FailsWithin (Stop.Reports tag) (Outcome.ofExcept result) := by
  cases result with
  | ok value => exact Ends.ok trivial
  | error error => exact within

/-- The reader of memory sizes has two fixed reasons and one about the unit. -/
theorem Literal.failsWithin_readMemorySize (text : List Char) (value : String) :
    FailsWithin (ReadFailure.Reports .memorySize .memorySize value) (readMemorySize text) := by
  unfold readMemorySize
  dsimp only
  split
  · exact Ends.error (Tag.Reports.fixed value rfl trivial)
  split
  · exact Ends.error (Tag.Reports.fixed value rfl trivial)
  split
  · exact Ends.error (Tag.Reports.unknownUnit value _ rfl)
  · split
    · exact Ends.error trivial
    · exact Ends.ok trivial

/-- The reader of members names the members of its set. -/
theorem Literal.failsWithin_readMember (set : EnumSet) (text : List Char) (value : String) :
    FailsWithin (ReadFailure.Reports (.member set) (.member set.name) value)
      (readMember set text) := by
  unfold readMember
  split
  · exact Ends.ok trivial
  · exact Ends.error (Tag.Reports.notMember value rfl)

/-- The reader of durations has fixed reasons, and it alone can be abandoned. -/
theorem Literal.reports_readDuration (text : List Char) (value : String) :
    FailsWithin (ReadFailure.Reports .duration .duration value) (readDuration text) := by
  apply (failsWithin_readDuration text).mono
  intro failure fixed
  cases failure with
  | unreadable reason => exact Tag.Reports.fixed value rfl fixed
  | outOfRange => trivial
  | aborted cause => rfl

namespace Value

theorem failsWithin_toInt (raw : Value) : FailsWithin (Stop.Reports .int) raw.toInt := by
  unfold toInt
  split
  · exact Ends.ok trivial
  · split
    · exact Ends.ok trivial
    · exact Ends.error (Tag.Reports.outOfRange _ rfl)
  · exact failsWithin_readAs_of_plain rfl Literal.failsWithin_readInt _

theorem failsWithin_toLong (raw : Value) : FailsWithin (Stop.Reports .long) raw.toLong := by
  unfold toLong
  split
  · exact Ends.ok trivial
  · exact Ends.ok trivial
  · exact failsWithin_readAs_of_plain rfl Literal.failsWithin_readLong _

theorem failsWithin_toBool (raw : Value) : FailsWithin (Stop.Reports .bool) raw.toBool := by
  unfold toBool
  split
  · exact Ends.ok trivial
  · exact failsWithin_readAs_of_plain rfl Literal.failsWithin_readBool _

theorem failsWithin_toFloat (raw : Value) : FailsWithin (Stop.Reports .float) raw.toFloat := by
  unfold toFloat
  split
  · exact Ends.ok trivial
  · split
    · exact Ends.ok trivial
    · exact Ends.error (Tag.Reports.outOfRange _ rfl)
  · exact failsWithin_readAs_of_plain rfl Literal.failsWithin_readBinary _

theorem failsWithin_toDouble (raw : Value) : FailsWithin (Stop.Reports .double) raw.toDouble := by
  unfold toDouble
  split
  · exact Ends.ok trivial
  · exact Ends.ok trivial
  · exact failsWithin_readAs_of_plain rfl Literal.failsWithin_readBinary _

theorem failsWithin_toMember (set : EnumSet) (raw : Value) :
    FailsWithin (Stop.Reports (.member set)) (raw.toMember set) := by
  unfold toMember
  split
  · split
    · exact Ends.ok trivial
    · exact failsWithin_readAs rfl (Literal.failsWithin_readMember set _ _)
  · exact failsWithin_readAs rfl (Literal.failsWithin_readMember set _ _)

theorem failsWithin_toDuration (raw : Value) :
    FailsWithin (Stop.Reports .duration) raw.toDuration := by
  unfold toDuration
  split
  · exact Ends.ok trivial
  · exact failsWithin_readAs rfl (Literal.reports_readDuration _ _)

theorem failsWithin_toMemorySize (raw : Value) :
    FailsWithin (Stop.Reports .memorySize) raw.toMemorySize := by
  unfold toMemorySize
  split
  · exact Ends.ok trivial
  · exact failsWithin_readAs rfl (Literal.failsWithin_readMemorySize _ _)

theorem failsWithin_toMap (raw : Value) : FailsWithin (Stop.Reports .map) raw.toMap := by
  unfold toMap
  split
  · exact Ends.ok trivial
  · exact (failsWithin_readMap .map _).ofExcept

theorem failsWithin_toElements (tag : Tag) (raw : Value) :
    FailsWithin (Stop.Reports tag) raw.toElements := by
  unfold toElements
  split
  · exact Ends.ok trivial
  · exact ((failsWithin_splitText tag _ _).map _).ofExcept

end Value

/-- Every error of a coercion is one that its type reports. -/
theorem failsWithin_coerce (tag : Tag) (raw : Value) :
    FailsWithin (Stop.Reports tag) (coerce tag raw) := by
  induction tag generalizing raw with
  | list element ih =>
      cases scalar : element.isList with
      | true =>
          rw [coerce, if_pos scalar]
          apply FailsWithin.maskedIf
          exact Ends.error (Tag.Reports.unsupported scalar)
      | false =>
          rw [coerce_list scalar]
          apply FailsWithin.maskedIf
          apply (Value.failsWithin_toElements _ raw).bind
          intro items _
          apply FailsWithin.map
          apply FailsWithin.mapM
          intro item _
          exact (ih item).mono fun stop => Stop.Reports.list scalar
  | int => exact ((Value.failsWithin_toInt raw).map _).maskedIf _
  | long => exact ((Value.failsWithin_toLong raw).map _).maskedIf _
  | bool => exact ((Value.failsWithin_toBool raw).map _).maskedIf _
  | float => exact ((Value.failsWithin_toFloat raw).map _).maskedIf _
  | double => exact ((Value.failsWithin_toDouble raw).map _).maskedIf _
  | text => exact FailsWithin.maskedIf _ (Ends.ok trivial)
  | secret => exact FailsWithin.maskedIf _ (Ends.ok trivial)
  | member set => exact ((Value.failsWithin_toMember set raw).map _).maskedIf _
  | duration => exact ((Value.failsWithin_toDuration raw).map _).maskedIf _
  | memorySize => exact ((Value.failsWithin_toMemorySize raw).map _).maskedIf _
  | map => exact ((Value.failsWithin_toMap raw).map _).maskedIf _

theorem reports_of_coerce {tag : Tag} {raw : Value} {error : ConversionError}
    (fails : coerce tag raw = .error (.failed error)) : tag.Reports error := by
  have within := failsWithin_coerce tag raw
  rw [fails] at within
  exact within

/-! ### The unit that is not known -/

/-- The text is a count within 64 bits and something after it that is not a unit of memory;
`unit` is what stands after the count, without white space at its ends and in lower case. -/
inductive NamesUnknownUnit : String → String → Prop where
  | intro {text unit : String} {digits rest : List Char}
      (splits : Text.trim text.toList = digits ++ rest)
      (counted : digits ≠ [])
      (numeric : ∀ c ∈ digits, c.isDigit = true)
      (ends : ∀ c, rest.head? = some c → c.isDigit = false)
      (within : Text.digitsValue digits < wordLimit)
      (folded : unit = String.ofList (Text.lower (Text.trim rest)))
      (unknown : Literal.memoryUnit? unit = none) : NamesUnknownUnit text unit

/-- The reader of memory sizes fails with an unknown unit on just these texts. -/
theorem readMemorySize_unknownUnit_iff {text unit : String} :
    Literal.readMemorySize (Text.trim text.toList) =
        .error (.unreadable (.unknownMemoryUnit unit)) ↔
      NamesUnknownUnit text unit := by
  constructor
  · intro fails
    unfold Literal.readMemorySize at fails
    dsimp only at fails
    split at fails
    · cases fails
    next counted =>
    split at fails
    · cases fails
    next within =>
    split at fails
    · next unknown =>
        simp only [Except.error.injEq, ReadFailure.unreadable.injEq,
          Reason.unknownMemoryUnit.injEq] at fails
        rw [fails] at unknown
        have splits := List.takeWhile_append_dropWhile (p := Char.isDigit)
          (l := Text.trim text.toList)
        exact .intro splits.symm (by simpa using counted)
          (fun _ => Text.isDigit_of_mem_takeWhile) (fun _ => Text.isDigit_of_head?_dropWhile)
          (Nat.not_le.1 within) fails.symm unknown
    · split at fails
      · cases fails
      · cases fails
  · rintro ⟨splits, counted, numeric, ends, within, folded, unknown⟩
    subst folded
    rw [splits]
    simp only [Literal.readMemorySize, Text.takeWhile_isDigit_append numeric ends,
      Text.dropWhile_isDigit_append numeric ends, List.isEmpty_iff, counted, if_false,
      if_neg (Nat.not_le.2 within), unknown]

/-- The computation fails with an error that names the unit once it is masked. -/
def Outcome.NamesUnit {α : Type} (outcome : Outcome ConversionError α) (unit : String) : Prop :=
  ∃ error, outcome = .error (.failed error) ∧ error.masked = .unknownUnit unit

namespace Outcome.NamesUnit

variable {α β : Type} {outcome : Outcome ConversionError α} {unit : String}

theorem maskedIf_iff {hide : Bool} :
    (Outcome.maskedIf hide outcome).NamesUnit unit ↔ outcome.NamesUnit unit := by
  cases hide with
  | false => exact Iff.rfl
  | true =>
      constructor
      · rintro ⟨error, fails, named⟩
        cases outcome with
        | ok value => cases fails
        | error stop =>
            cases stop with
            | failed inner =>
                cases fails
                rw [ConversionError.masked_masked] at named
                exact ⟨inner, rfl, named⟩
            | aborted cause => cases fails
      · rintro ⟨error, rfl, named⟩
        refine ⟨error.masked, rfl, ?_⟩
        rw [ConversionError.masked_masked]
        exact named

theorem not_ok {value : α} : ¬Outcome.NamesUnit (.ok value) unit := by
  rintro ⟨error, fails, named⟩
  cases fails

theorem map_iff {make : α → β} :
    Outcome.NamesUnit (outcome.map make) unit ↔ outcome.NamesUnit unit := by
  cases outcome with
  | ok value => exact iff_of_false not_ok not_ok
  | error stop =>
      constructor
      · rintro ⟨error, fails, named⟩
        cases fails
        exact ⟨error, rfl, named⟩
      · rintro ⟨error, fails, named⟩
        cases fails
        exact ⟨error, rfl, named⟩

end Outcome.NamesUnit

/-- A text is read as a memory size with an unknown unit just when it names one. -/
theorem namesUnit_readAs_iff {text unit : String} :
    Outcome.NamesUnit (readAs .memorySize Literal.readMemorySize text) unit ↔
      NamesUnknownUnit text unit := by
  rw [← readMemorySize_unknownUnit_iff]
  cases result : Literal.readMemorySize (Text.trim text.toList) with
  | ok size =>
      simp only [readAs, result]
      exact iff_of_false Outcome.NamesUnit.not_ok (by simp)
  | error failure =>
      simp only [readAs, result]
      constructor
      · rintro ⟨error, fails, named⟩
        cases failure with
        | unreadable reason =>
            cases fails
            simp only [ConversionError.masked, ConversionError.unknownUnit,
              ConversionError.unreadable.injEq, true_and] at named
            rw [named]
        | outOfRange =>
            cases fails
            cases named
        | aborted cause => cases fails
      · intro fails
        cases fails
        exact ⟨_, rfl, rfl⟩

theorem namesUnit_toMemorySize_iff {raw : Value} {unit : String} :
    Outcome.NamesUnit raw.toMemorySize unit ↔ NamesUnknownUnit raw.render unit := by
  unfold Value.toMemorySize
  split
  · next size =>
      have text : (Value.memorySize size).render = size.text := by
        simp [Value.render, Value.display]
      rw [text, ← namesUnit_readAs_iff, Literal.readAs_readMemorySize_text]
  · exact namesUnit_readAs_iff

/-- What stands in the errors about secrets, masked as they are: the unit of a text that is
read as a memory size, be it the whole input or the first element that is not one. -/
inductive Leaks : Tag → Value → String → Prop where
  | size {raw : Value} {unit : String} (named : NamesUnknownUnit raw.render unit) :
      Leaks .memorySize raw unit
  | element {raw item : Value} {before after : List Value} {unit : String}
      (elements : raw.toElements = .ok (before ++ item :: after))
      (sizes : ∀ earlier ∈ before, ∃ size, coerce .memorySize earlier = .ok size)
      (named : NamesUnknownUnit item.render unit) : Leaks (.list .memorySize) raw unit

theorem namesUnit_coerce_memorySize_iff {raw : Value} {unit : String} :
    Outcome.NamesUnit (coerce .memorySize raw) unit ↔ NamesUnknownUnit raw.render unit := by
  rw [coerce, Outcome.NamesUnit.maskedIf_iff, Outcome.NamesUnit.map_iff]
  exact namesUnit_toMemorySize_iff

theorem leaks_of_namesUnit_list {element : Tag} {raw : Value} {unit : String}
    (memory : element.innermost = .memorySize)
    (named : Outcome.NamesUnit (coerce (.list element) raw) unit) :
    Leaks (.list element) raw unit := by
  cases scalar : element.isList with
  | true =>
      rw [coerce, if_pos scalar, Outcome.NamesUnit.maskedIf_iff] at named
      obtain ⟨error, fails, masked⟩ := named
      cases fails
      cases masked
  | false =>
      rw [Tag.innermost_of_isList scalar] at memory
      subst memory
      rw [coerce_list rfl, Outcome.NamesUnit.maskedIf_iff] at named
      cases elements : raw.toElements with
      | error stop =>
          rw [elements] at named
          obtain ⟨error, fails, masked⟩ := named
          cases fails
          -- Splitting fails alike under every type, also under one that has no units.
          have within := Value.failsWithin_toElements .text raw
          rw [elements] at within
          cases Tag.Reports.innermost_of_unknownUnit within masked
      | ok items =>
          rw [elements] at named
          obtain ⟨error, fails, masked⟩ := Outcome.NamesUnit.map_iff.1 named
          obtain ⟨before, item, after, split, sound, itemFails⟩ := exists_of_mapM_eq_error fails
          have itemNamed := namesUnit_coerce_memorySize_iff.1 ⟨error, itemFails, masked⟩
          rw [split] at elements
          exact .element elements sound itemNamed

/-- A coercion names a unit in its error just when it leaks it. -/
theorem namesUnit_coerce_iff {tag : Tag} {raw : Value} {unit : String} :
    Outcome.NamesUnit (coerce tag raw) unit ↔ Leaks tag raw unit := by
  constructor
  · intro named
    obtain ⟨error, fails, masked⟩ := named
    have reports := reports_of_coerce fails
    have memory := reports.innermost_of_unknownUnit masked
    cases tag with
    | memorySize => exact .size (namesUnit_coerce_memorySize_iff.1 ⟨error, fails, masked⟩)
    | list element => exact leaks_of_namesUnit_list memory ⟨error, fails, masked⟩
    | _ => cases memory
  · intro leaks
    cases leaks with
    | size named => exact namesUnit_coerce_memorySize_iff.2 named
    | @element _ item before after _ elements sizes named =>
        obtain ⟨error, fails, masked⟩ := namesUnit_coerce_memorySize_iff.2 named
        rw [coerce_list rfl, Outcome.NamesUnit.maskedIf_iff, elements]
        apply Outcome.NamesUnit.map_iff.2
        exact ⟨error, mapM_eq_error after sizes fails, masked⟩

/-- The errors of a coercion that handles secrets are masked already. -/
theorem masked_of_coerce {tag : Tag} {raw : Value} {error : ConversionError}
    (hidden : tag.isSensitive = true ∨ raw.containsSecret = true)
    (fails : coerce tag raw = .error (.failed error)) : error.masked = error := by
  have hide : (tag.isSensitive || raw.containsSecret) = true := Bool.or_eq_true_iff.2 hidden
  unfold coerce at fails
  rw [hide] at fails
  exact ConversionError.masked_of_maskedIf fails

/-- Coercing a secret, or to a type of secrets, never fails with a message that holds a
foreign character, unless the character is in a unit of memory that is not known.  This is
exact: in that case the coercion fails, and its message holds the character. -/
theorem message_of_secret_safe_iff {tag : Tag} {raw : Value} {c : Char}
    (hidden : tag.isSensitive = true ∨ raw.containsSecret = true)
    (foreign : Foreign c) (unmentioned : ¬tag.Mentions c) :
    (∀ error, coerce tag raw = .error (.failed error) → c ∉ error.message.toList) ↔
      ∀ unit, Leaks tag raw unit → c ∉ unit.toList := by
  constructor
  · intro safe unit leaks member
    obtain ⟨error, fails, masked⟩ := namesUnit_coerce_iff.2 leaks
    have told := ConversionError.mem_unknownUnit member
    rw [← masked, masked_of_coerce hidden fails] at told
    exact safe error fails told
  · intro safe error fails told
    have reports := reports_of_coerce fails
    rw [← masked_of_coerce hidden fails] at told
    obtain ⟨unit, masked, member⟩ := reports.exists_unit_of_mem foreign unmentioned told
    exact safe unit (namesUnit_coerce_iff.1 ⟨error, fails, masked⟩) member

/-- A secret among integers is not read as one, and the message does not hold its letter. -/
theorem message_of_secret_safe_int :
    coerce (.list .int) (.list [.int 1, .secret ⟨"é"⟩]) =
        .error (.failed (.unreadable Secret.mask .int .invalidDigit)) ∧
      'é' ∉ (ConversionError.unreadable Secret.mask .int .invalidDigit).message.toList := by
  have fails : coerce (.list .int) (.list [.int 1, .secret ⟨"é"⟩]) =
      .error (.failed (.unreadable Secret.mask .int .invalidDigit)) := rfl
  refine ⟨fails, (message_of_secret_safe_iff (.inr rfl) (by decide) ?_).2 ?_ _ fails⟩
  · rintro ⟨set, inner, -⟩
    cases inner
  · intro unit leaks
    cases leaks

set_option maxRecDepth 4000 in
/-- A secret read as a memory size: its letter stands in the message. -/
theorem message_of_secret_unsafe :
    (Value.secret ⟨"5 é"⟩).containsSecret = true ∧ 'é' ∈ "5 é".toList ∧ Foreign 'é' ∧
      ¬Tag.memorySize.Mentions 'é' ∧
      coerce .memorySize (.secret ⟨"5 é"⟩) = .error (.failed (.unknownUnit "é")) ∧
      'é' ∈ (ConversionError.unknownUnit "é").message.toList := by
  have told : 'é' ∈ "é".toList := by decide
  refine ⟨rfl, by decide, by decide, ?_, rfl, ConversionError.mem_unknownUnit told⟩
  rintro ⟨set, inner, -⟩
  cases inner

end Settings
