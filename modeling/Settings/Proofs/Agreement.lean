import Settings.Proofs.Durations
import Settings.Proofs.Masking

/-!
A value and its canonical text are coerced alike.

The direct conversions of a coercion, which never look at a text, agree with reading the
text: both give the same value, or both fail with the same kind of error, or both are
abandoned.  The last happens on texts of durations only.
-/

namespace Settings

/-! ### Outcomes by the kinds of their errors -/

namespace Outcome

variable {α β : Type}

/-- The outcome with its error reduced to the kind of the error. -/
def byKind (outcome : Outcome ConversionError α) : Outcome ConversionError.Kind α :=
  outcome.mapError (Stop.map ConversionError.kind)

/-- Masking changes no kind. -/
theorem byKind_maskedIf (hide : Bool) (outcome : Outcome ConversionError α) :
    byKind (maskedIf hide outcome) = byKind outcome := by
  cases hide with
  | false => rfl
  | true =>
      cases outcome with
      | ok value => rfl
      | error stop =>
          cases stop with
          | failed error => cases error <;> rfl
          | aborted cause => rfl

theorem byKind_map (outcome : Outcome ConversionError α) (make : α → β) :
    byKind (outcome.map make) = (byKind outcome).map make := by
  cases outcome <;> rfl

theorem byKind_bind (first : Outcome ConversionError α) (next : α → Outcome ConversionError β) :
    byKind (first >>= next) = byKind first >>= fun value => byKind (next value) := by
  cases first <;> rfl

/-- Items that are read alike one by one are read alike along a list. -/
theorem byKind_mapM_congr {first second : α → Outcome ConversionError β} {items : List α}
    (each : ∀ item ∈ items, byKind (first item) = byKind (second item)) :
    byKind (items.mapM first) = byKind (items.mapM second) := by
  induction items with
  | nil => rfl
  | cons item rest ih =>
      have head := each item (List.mem_cons_self ..)
      have tail := ih fun later listed => each later (List.mem_cons_of_mem _ listed)
      simp only [List.mapM_cons, byKind_bind, head, tail]

/-- The computation is abandoned. -/
def Aborts (outcome : Outcome ConversionError α) : Prop :=
  ∃ cause, outcome = .error (.aborted cause)

theorem not_aborts_ok {value : α} : ¬Aborts (.ok value) := by
  rintro ⟨cause, aborts⟩
  cases aborts

theorem not_aborts_failed {error : ConversionError} :
    ¬Aborts (.error (.failed error) : Outcome ConversionError α) := by
  rintro ⟨cause, aborts⟩
  cases aborts

theorem aborts_maskedIf_iff {hide : Bool} {outcome : Outcome ConversionError α} :
    Aborts (maskedIf hide outcome) ↔ Aborts outcome := by
  cases hide with
  | false => exact Iff.rfl
  | true =>
      cases outcome with
      | ok value => exact iff_of_false not_aborts_ok not_aborts_ok
      | error stop =>
          cases stop with
          | failed error => exact iff_of_false not_aborts_failed not_aborts_failed
          | aborted cause => exact iff_of_true ⟨cause, rfl⟩ ⟨cause, rfl⟩

theorem aborts_map_iff {outcome : Outcome ConversionError α} {make : α → β} :
    Aborts (outcome.map make) ↔ Aborts outcome := by
  cases outcome with
  | ok value => exact iff_of_false not_aborts_ok not_aborts_ok
  | error stop =>
      constructor
      · rintro ⟨cause, aborts⟩
        cases aborts
        exact ⟨cause, rfl⟩
      · rintro ⟨cause, aborts⟩
        cases aborts
        exact ⟨cause, rfl⟩

/-- Both computations give the same value, or both fail with errors of the same kind. -/
inductive Agrees : Outcome ConversionError α → Outcome ConversionError α → Prop where
  | ok (value : α) : Agrees (.ok value) (.ok value)
  | failed {left right : ConversionError} (alike : left.kind = right.kind) :
      Agrees (.error (.failed left)) (.error (.failed right))

/-- Outcomes that are alike by kind agree unless they are abandoned. -/
theorem agrees_iff_of_byKind {left right : Outcome ConversionError α}
    (alike : byKind left = byKind right) : Agrees left right ↔ ¬Aborts left := by
  constructor
  · rintro agrees ⟨cause, rfl⟩
    cases agrees
  · intro completes
    cases left with
    | ok value =>
        cases right with
        | ok other =>
            cases alike
            exact Agrees.ok value
        | error stop => cases alike
    | error stop =>
        cases stop with
        | aborted cause => exact absurd ⟨cause, rfl⟩ completes
        | failed error =>
            cases right with
            | ok other => cases alike
            | error stop =>
                cases stop with
                | aborted cause => cases alike
                | failed other =>
                    exact Agrees.failed (Stop.failed.inj (Except.error.inj alike))

end Outcome

open Outcome (byKind)

/-- The kind of the error that a reader's failure becomes. -/
def ReadFailure.byKind : ReadFailure → Stop ConversionError.Kind
  | .unreadable _ => .failed .unreadable
  | .outOfRange => .failed .outOfRange
  | .aborted cause => .aborted cause

/-- By kind, reading a text ends as its reader ends on the trimmed text. -/
theorem byKind_readAs {α : Type} (target : Target) (read : List Char → Except ReadFailure α)
    (text : String) :
    byKind (readAs target read text) =
      (read (Text.trim text.toList)).mapError ReadFailure.byKind := by
  simp only [readAs]
  cases read (Text.trim text.toList) with
  | ok value => rfl
  | error failure => cases failure <;> rfl

/-! ### Conversions of scalars -/

namespace Value

variable (raw : Value)

theorem byKind_toInt : byKind (toInt (.text raw.render)) = byKind raw.toInt := by
  cases raw with
  | int value => exact congrArg byKind (Literal.readAs_readInt_ofInt value)
  | long value =>
      have positive : 0 < 0x80000000 := by decide
      exact congrArg byKind (Literal.readAs_readInteger positive .int Int32.ofInt value.toInt)
  | _ => rfl

theorem byKind_toLong : byKind (toLong (.text raw.render)) = byKind raw.toLong := by
  cases raw with
  | int value =>
      have low := value.le_toInt
      have high := value.toInt_lt
      have positive : 0 < signedLimit := by decide
      have reads := Literal.readAs_readInteger positive .long Int64.ofInt value.toInt
      rw [if_pos ⟨by simp [signedLimit]; omega, by simp [signedLimit]; omega⟩] at reads
      exact congrArg byKind reads
  | long value => exact congrArg byKind (Literal.readAs_readLong_ofInt value)
  | _ => rfl

theorem byKind_toBool : byKind (toBool (.text raw.render)) = byKind raw.toBool := by
  cases raw with
  | bool value => exact congrArg byKind (Literal.readAs_readBool_boolText value)
  | _ => rfl

theorem toSecret_text : toSecret (.text raw.render) = raw.toSecret := by
  cases raw <;> rfl

theorem byKind_toMember {set : EnumSet} (wellNamed : set.WellNamed) :
    byKind (toMember set (.text raw.render)) = byKind (raw.toMember set) := by
  cases raw with
  | member value =>
      by_cases same : value.set = set
      · subst same
        have direct : (Value.member value).toMember value.set = .ok value := if_pos rfl
        rw [direct]
        exact congrArg byKind (Literal.readAs_readMember_name wellNamed)
      · have direct : (Value.member value).toMember set =
            readAs (.member set.name) (Literal.readMember set) value.name := if_neg same
        rw [direct]
        rfl
  | _ => rfl

theorem byKind_toDuration (readsBack : ∀ duration, raw = .duration duration → duration.ReadsBack) :
    byKind (toDuration (.text raw.render)) = byKind raw.toDuration := by
  cases raw with
  | duration value => exact congrArg byKind (readsBack value rfl)
  | _ => rfl

theorem byKind_toMemorySize :
    byKind (toMemorySize (.text raw.render)) = byKind raw.toMemorySize := by
  cases raw with
  | memorySize value => exact congrArg byKind (Literal.readAs_readMemorySize_text value)
  | _ => rfl

theorem byKind_toMap : byKind (toMap (.text raw.render)) = byKind raw.toMap := by
  cases raw with
  | map entries =>
      have reads : Outcome.ofExcept (readMap (renderMap entries)) = .ok entries := by
        rw [readMap_renderMap]
        rfl
      exact congrArg byKind reads
  | _ => rfl

/-- A scalar type makes the same of a value and of its text. -/
theorem byKind_coerce_scalar {tag : Tag} (scalar : tag.isList = false) (wellNamed : tag.WellNamed)
    (numbers : tag.innermost = .float ∨ tag.innermost = .double →
      (∀ number, .float number ∉ raw.leaves) ∧ ∀ number, .double number ∉ raw.leaves)
    (durations : ∀ duration, .duration duration ∈ raw.leaves → duration.ReadsBack) :
    byKind (coerce tag (.text raw.render)) = byKind (coerce tag raw) := by
  unfold coerce
  rw [Outcome.byKind_maskedIf, Outcome.byKind_maskedIf]
  cases tag with
  | int => simp only [Outcome.byKind_map, byKind_toInt]
  | long => simp only [Outcome.byKind_map, byKind_toLong]
  | bool => simp only [Outcome.byKind_map, byKind_toBool]
  | float =>
      obtain ⟨single, double⟩ := numbers (.inl rfl)
      cases raw with
      | float number => exact absurd (by simp [leaves]) (single number)
      | double number => exact absurd (by simp [leaves]) (double number)
      | _ => rfl
  | double =>
      obtain ⟨single, double⟩ := numbers (.inr rfl)
      cases raw with
      | float number => exact absurd (by simp [leaves]) (single number)
      | double number => exact absurd (by simp [leaves]) (double number)
      | _ => rfl
  | text => rfl
  | secret => simp only [toSecret_text]
  | member set => simp only [Outcome.byKind_map, byKind_toMember raw wellNamed]
  | duration =>
      have readsBack : ∀ duration, raw = .duration duration → duration.ReadsBack := by
        rintro duration rfl
        exact durations duration (by simp [leaves])
      simp only [Outcome.byKind_map, byKind_toDuration raw readsBack]
  | memorySize => simp only [Outcome.byKind_map, byKind_toMemorySize]
  | map => simp only [Outcome.byKind_map, byKind_toMap]
  | list element => cases scalar

/-- A list of scalars makes the same of a value and of its text if its type of elements makes
the same of each element and of the text of the element. -/
theorem byKind_coerce_list {element : Tag} (scalar : element.isList = false)
    (each : ∀ elements, raw = .list elements → ∀ item ∈ elements,
      byKind (coerce element (.text item.render)) = byKind (coerce element item)) :
    byKind (coerce (.list element) (.text raw.render)) =
      byKind (coerce (.list element) raw) := by
  rw [coerce_list scalar, coerce_list scalar, Outcome.byKind_maskedIf, Outcome.byKind_maskedIf]
  cases raw with
  | list elements =>
      have alike : byKind (elements.mapM (coerce element ∘ text ∘ render)) =
          byKind (elements.mapM (coerce element)) :=
        Outcome.byKind_mapM_congr (each elements rfl)
      rw [toElements_render_list, toElements, ok_bind, ok_bind, renderAll_eq_map, List.map_map,
        List.mapM_map, Outcome.byKind_map, Outcome.byKind_map, alike]
  | _ => rfl

/-- Every type makes the same of a value and of its text. -/
theorem byKind_coerce_render {tag : Tag} (wellNamed : tag.WellNamed)
    (numbers : tag.innermost = .float ∨ tag.innermost = .double →
      (∀ number, .float number ∉ raw.leaves) ∧ ∀ number, .double number ∉ raw.leaves)
    (durations : ∀ duration, .duration duration ∈ raw.leaves → duration.ReadsBack) :
    byKind (coerce tag (.text raw.render)) = byKind (coerce tag raw) := by
  cases tag with
  | list element =>
      cases scalar : element.isList with
      | true =>
          rw [coerce, coerce, if_pos scalar, if_pos scalar, Outcome.byKind_maskedIf,
            Outcome.byKind_maskedIf]
      | false =>
          apply byKind_coerce_list raw scalar
          rintro elements rfl item listed
          apply byKind_coerce_scalar item scalar wellNamed
          · intro kind
            obtain ⟨single, double⟩ := numbers kind
            exact ⟨fun number inside => single number (mem_leaves_list listed inside),
              fun number inside => double number (mem_leaves_list listed inside)⟩
          · exact fun duration inside => durations duration (mem_leaves_list listed inside)
  | _ => exact byKind_coerce_scalar raw rfl wellNamed numbers durations

end Value

/-! ### Abandoned coercions -/

/-- Reading the text as a duration is abandoned: the sum of its components leaves the range in
the carry of its last second. -/
def Overruns (text : String) : Prop :=
  ∃ cause, Literal.readDuration (Text.trim text.toList) = .error (.aborted cause)

/-- The coercion reads a text that overruns: its own, or that of the first element which is
not a duration. -/
inductive Abandons : Tag → Value → Prop where
  | duration {raw : Value} (overruns : Overruns raw.render) : Abandons .duration raw
  | element {raw item : Value} {before after : List Value}
      (elements : raw.toElements = .ok (before ++ item :: after))
      (sound : ∀ earlier ∈ before, ∃ value, coerce .duration earlier = .ok value)
      (overruns : Overruns item.render) : Abandons (.list .duration) raw

theorem aborts_readAs_iff {text : String} :
    Outcome.Aborts (readAs .duration Literal.readDuration text) ↔ Overruns text := by
  cases result : Literal.readDuration (Text.trim text.toList) with
  | ok value =>
      simp only [readAs, Overruns, result]
      exact iff_of_false Outcome.not_aborts_ok (by simp)
  | error failure =>
      simp only [readAs, Overruns, result]
      cases failure with
      | unreadable reason => exact iff_of_false Outcome.not_aborts_failed (by simp)
      | outOfRange => exact iff_of_false Outcome.not_aborts_failed (by simp)
      | aborted cause => exact iff_of_true ⟨cause, rfl⟩ ⟨cause, rfl⟩

/-- A printed duration may be refused, but it never overruns. -/
theorem Duration.not_overruns_text (duration : Duration) : ¬Overruns duration.text := by
  rintro ⟨cause, aborts⟩
  rw [Text.trim_of_hasBlankEnd duration.hasBlankEnd_text] at aborts
  obtain ⟨refused, reads⟩ := duration.readDuration_text
  by_cases outgrown : duration.Outgrown
  · rw [refused outgrown] at aborts
    cases aborts
  · rw [reads outgrown] at aborts
    cases aborts

theorem aborts_coerce_duration_iff {raw : Value} :
    Outcome.Aborts (coerce .duration raw) ↔ Overruns raw.render := by
  unfold coerce
  rw [Outcome.aborts_maskedIf_iff, Outcome.aborts_map_iff]
  unfold Value.toDuration
  split
  · next duration => exact iff_of_false Outcome.not_aborts_ok duration.not_overruns_text
  · exact aborts_readAs_iff

/-- Splitting is not abandoned, so the elements are read up to the first that fails, and that
one is abandoned. -/
theorem abandons_list_of_aborts {raw : Value}
    (aborts : Outcome.Aborts (coerce (.list .duration) raw)) :
    Abandons (.list .duration) raw := by
  rw [coerce_list rfl, Outcome.aborts_maskedIf_iff] at aborts
  cases elements : raw.toElements with
  | error stop =>
      have within := Value.failsWithin_toElements .text raw
      rw [elements] at within aborts
      obtain ⟨cause, aborts⟩ := aborts
      cases aborts
      cases within
  | ok items =>
      rw [elements, ok_bind, Outcome.aborts_map_iff] at aborts
      obtain ⟨cause, aborts⟩ := aborts
      obtain ⟨before, item, after, split, sound, fails⟩ := exists_of_mapM_eq_error aborts
      rw [split] at elements
      exact .element elements sound (aborts_coerce_duration_iff.1 ⟨cause, fails⟩)

/-- A coercion is abandoned just when it reads a text that overruns. -/
theorem aborts_coerce_iff {tag : Tag} {raw : Value} :
    Outcome.Aborts (coerce tag raw) ↔ Abandons tag raw := by
  constructor
  · rintro ⟨cause, aborts⟩
    have inner : tag.innermost = .duration := by
      have within := failsWithin_coerce tag raw
      rw [aborts] at within
      exact within
    cases tag with
    | duration => exact .duration (aborts_coerce_duration_iff.1 ⟨cause, aborts⟩)
    | list element =>
        cases scalar : element.isList with
        | true =>
            rw [coerce, if_pos scalar] at aborts
            exact absurd (Outcome.aborts_maskedIf_iff.1 ⟨cause, aborts⟩) Outcome.not_aborts_failed
        | false =>
            rw [Tag.innermost, Tag.innermost_of_isList scalar] at inner
            subst inner
            exact abandons_list_of_aborts ⟨cause, aborts⟩
    | _ => cases inner
  · intro abandons
    cases abandons with
    | duration overruns => exact aborts_coerce_duration_iff.2 overruns
    | element elements sound overruns =>
        obtain ⟨cause, fails⟩ := aborts_coerce_duration_iff.2 overruns
        rw [coerce_list rfl, Outcome.aborts_maskedIf_iff, elements]
        apply Outcome.aborts_map_iff.2
        exact ⟨cause, mapM_eq_error _ sound fails⟩

/-- A value and its canonical text are coerced alike, unless the coercion is abandoned: both
give the same value, or both fail with errors of the same kind. -/
theorem agrees_coerce_render_iff {tag : Tag} {value : Value} (wellNamed : tag.WellNamed)
    (numbers : tag.innermost = .float ∨ tag.innermost = .double →
      (∀ number, .float number ∉ value.leaves) ∧ ∀ number, .double number ∉ value.leaves)
    (durations : ∀ duration, .duration duration ∈ value.leaves → duration.ReadsBack) :
    Outcome.Agrees (coerce tag value) (coerce tag (.text value.render)) ↔
      ¬Abandons tag value := by
  have alike := (value.byKind_coerce_render wellNamed numbers durations).symm
  rw [Outcome.agrees_iff_of_byKind alike, aborts_coerce_iff]

/-- A name in another case, and a duration, which is no member. -/
theorem agrees_coerce_render_members :
    Outcome.Agrees
      (coerce (.list (.member ⟨"Level", ["low", "high"]⟩))
        (.list [.text "LOW", .duration ⟨90000000000, by decide⟩]))
      (coerce (.list (.member ⟨"Level", ["low", "high"]⟩))
        (.text (Value.render (.list [.text "LOW", .duration ⟨90000000000, by decide⟩])))) := by
  apply (agrees_coerce_render_iff _ _ _).2
  · rintro ⟨⟩
  · exact ⟨by decide, by decide⟩
  · rintro (kind | kind) <;> cases kind
  · intro duration inside
    simp only [Value.leaves, Value.leavesAll, List.append_nil, List.cons_append,
      List.nil_append, List.mem_cons, reduceCtorEq, Value.duration.injEq, List.not_mem_nil,
      or_false, false_or] at inside
    rw [inside]
    rfl

/-- A sum of durations in which the last second to be carried finds no room: neither the text
nor its canonical text, which is the same, gives a value or an error. -/
theorem not_agrees_coerce_render :
    coerce .duration (.text "18446744073709551615s 1000000000ns") =
        .error (.aborted .durationCarry) ∧
      ¬Outcome.Agrees (coerce .duration (.text "18446744073709551615s 1000000000ns"))
        (coerce .duration
          (.text (Value.render (.text "18446744073709551615s 1000000000ns")))) := by
  have aborts : coerce .duration (.text "18446744073709551615s 1000000000ns") =
      .error (.aborted .durationCarry) := by rfl
  refine ⟨aborts, ?_⟩
  rw [aborts]
  rintro ⟨⟩

end Settings
