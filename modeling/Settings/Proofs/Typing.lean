import Settings.Proofs.CanonicalText
import Settings.Proofs.Masking
import Settings.Proofs.Traversals

/-!
What a coercion gives: a value of the requested type, which a second coercion leaves alone.

A value that has the type already is passed through (`Value.HasTag.coerce`), and every result
of a coercion has the type (`Value.hasTag_of_coerce`), so coercing twice is coercing once.
-/

namespace Settings

/-- The type is a scalar, or a list of scalars. -/
def Tag.Flat (tag : Tag) : Prop := ∀ element, tag = .list element → element.isList = false

theorem Tag.flat_list {element : Tag} (scalar : element.isList = false) :
    (Tag.list element).Flat := by
  rintro _ ⟨⟩
  exact scalar

theorem Tag.flat_of_isList {tag : Tag} (scalar : tag.isList = false) : tag.Flat := by
  rintro element rfl
  cases scalar

/-! ### Values that have the type -/

namespace Value

/-- A scalar is returned unchanged under its own type. -/
theorem HasTag.coerce_scalar {tag : Tag} {value : Value} (typed : value.HasTag tag)
    (scalar : tag.isList = false) : coerce tag value = .ok value := by
  cases typed with
  | int value => exact Outcome.maskedIf_ok _ _
  | long value => exact Outcome.maskedIf_ok _ _
  | bool value => exact Outcome.maskedIf_ok _ _
  | float value => exact Outcome.maskedIf_ok _ _
  | double value => exact Outcome.maskedIf_ok _ _
  | text value => exact Outcome.maskedIf_ok _ _
  | secret value => exact Outcome.maskedIf_ok _ _
  | member value => exact Outcome.maskedIf_map_of_ok (if_pos rfl) _ _
  | duration value => exact Outcome.maskedIf_ok _ _
  | memorySize value => exact Outcome.maskedIf_ok _ _
  | map entries => exact Outcome.maskedIf_ok _ _
  | list each => cases scalar

/-- A value is returned unchanged under its own type, NaN and all. -/
theorem HasTag.coerce {tag : Tag} {value : Value} (typed : value.HasTag tag) (flat : tag.Flat) :
    Settings.coerce tag value = .ok value := by
  cases scalar : tag.isList with
  | false => exact typed.coerce_scalar scalar
  | true =>
      cases typed with
      | @list elements element each =>
          have inner := flat element rfl
          have unchanged : (elements.map id).mapM (Settings.coerce element) = .ok elements :=
            mapM_map_eq_pure fun item listed => (each item listed).coerce_scalar inner
          rw [List.map_id] at unchanged
          rw [coerce_list inner, toElements, ok_bind]
          exact Outcome.maskedIf_map_of_ok unchanged _ _
      | _ => cases scalar

end Value

/-! ### Results of coercions -/

/-- Masking changes errors only. -/
theorem Outcome.eq_ok_of_maskedIf {α : Type} {hide : Bool} {outcome : Outcome ConversionError α}
    {value : α} (coerces : Outcome.maskedIf hide outcome = .ok value) : outcome = .ok value := by
  cases hide with
  | false => exact coerces
  | true =>
      cases outcome with
      | ok result => exact coerces
      | error stop => cases coerces

namespace Value

/-- A member is one of the requested set, whatever set it was found in. -/
theorem set_of_toMember {set : EnumSet} {raw : Value} {member : EnumMember}
    (coerces : raw.toMember set = .ok member) : member.set = set := by
  have named : ∀ text, readAs (.member set.name) (Literal.readMember set) text = .ok member →
      member.set = set := by
    intro text reads
    have found := readAs_eq_ok_iff.1 reads
    unfold Literal.readMember at found
    split at found
    · next lookup =>
        cases found
        exact EnumSet.set_of_lookup lookup
    · cases found
  unfold toMember at coerces
  split at coerces
  · split at coerces
    · next same =>
        cases coerces
        exact same
    · exact named _ coerces
  · exact named _ coerces

/-- A scalar type gives a scalar of the type. -/
theorem hasTag_of_coerce_scalar {tag : Tag} {raw value : Value} (scalar : tag.isList = false)
    (coerces : Settings.coerce tag raw = .ok value) : value.HasTag tag := by
  unfold Settings.coerce at coerces
  have result := Outcome.eq_ok_of_maskedIf coerces
  cases tag with
  | list element => cases scalar
  | text =>
      cases result
      exact HasTag.text _
  | secret =>
      cases result
      exact HasTag.secret _
  | member set =>
      obtain ⟨member, found, rfl⟩ := exists_of_map_eq_ok result
      rw [← set_of_toMember found]
      exact HasTag.member member
  | int =>
      obtain ⟨number, -, rfl⟩ := exists_of_map_eq_ok result
      exact HasTag.int number
  | long =>
      obtain ⟨number, -, rfl⟩ := exists_of_map_eq_ok result
      exact HasTag.long number
  | bool =>
      obtain ⟨truth, -, rfl⟩ := exists_of_map_eq_ok result
      exact HasTag.bool truth
  | float =>
      obtain ⟨number, -, rfl⟩ := exists_of_map_eq_ok result
      exact HasTag.float number
  | double =>
      obtain ⟨number, -, rfl⟩ := exists_of_map_eq_ok result
      exact HasTag.double number
  | duration =>
      obtain ⟨duration, -, rfl⟩ := exists_of_map_eq_ok result
      exact HasTag.duration duration
  | memorySize =>
      obtain ⟨size, -, rfl⟩ := exists_of_map_eq_ok result
      exact HasTag.memorySize size
  | map =>
      obtain ⟨entries, -, rfl⟩ := exists_of_map_eq_ok result
      exact HasTag.map entries

/-- A coercion succeeds only under a type that nests no lists. -/
theorem flat_of_coerce {tag : Tag} {raw value : Value}
    (coerces : Settings.coerce tag raw = .ok value) : tag.Flat := by
  rintro element rfl
  cases scalar : element.isList with
  | false => rfl
  | true =>
      rw [Settings.coerce, if_pos scalar] at coerces
      cases Outcome.eq_ok_of_maskedIf coerces

/-- Whatever a coercion gives has the type it was asked for, at every depth. -/
theorem hasTag_of_coerce {tag : Tag} {raw value : Value}
    (coerces : Settings.coerce tag raw = .ok value) : value.HasTag tag := by
  cases scalar : tag.isList with
  | false => exact hasTag_of_coerce_scalar scalar coerces
  | true =>
      cases tag with
      | list element =>
          have inner := flat_of_coerce coerces element rfl
          rw [coerce_list inner] at coerces
          obtain ⟨items, -, result⟩ := exists_of_bind_eq_ok (Outcome.eq_ok_of_maskedIf coerces)
          obtain ⟨elements, reads, rfl⟩ := exists_of_map_eq_ok result
          apply HasTag.list
          intro value listed
          obtain ⟨item, -, found⟩ := exists_of_mem_mapM reads listed
          exact hasTag_of_coerce_scalar inner found
      | _ => cases scalar

end Value

/-- A coercion has no conversion to offer only if its type nests lists. -/
theorem kind_ne_unsupported_of_flat {tag : Tag} {raw : Value} {error : ConversionError}
    (flat : tag.Flat) (fails : coerce tag raw = .error (.failed error)) :
    error.kind ≠ .unsupported := by
  have reports := reports_of_coerce fails
  cases reports with
  | @unsupported element nested =>
      rw [flat element rfl] at nested
      cases nested
  | _ =>
      intro kind
      cases kind

end Settings
