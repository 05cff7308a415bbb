import Settings.Proofs.Tags
import Settings.Proofs.Typing

/-!
The masked text of a value, and what it is read as.

Only secrets are masked, so under any other type the masked text is the canonical one
(`Value.HasTag.renderMasked_eq`).  What was read once under a type without durations is read
again from its masked text, as a value with the same masked text (`Value.coerce_renderMasked`):
the value itself or, for secrets, as many masks.
-/

namespace Settings

namespace Value

theorem renderMaskedAll_eq_map (elements : List Value) :
    renderMaskedAll elements = elements.map renderMasked := by
  induction elements with
  | nil => rfl
  | cons value rest ih => rw [renderMaskedAll, List.map_cons, ih]

/-- Nothing is masked in a value of a type without secrets. -/
theorem HasTag.renderMasked_eq {tag : Tag} {value : Value} (typed : value.HasTag tag)
    (plain : tag.isSensitive = false) : value.renderMasked = value.render := by
  induction typed with
  | secret => cases plain
  | @list elements element each ih =>
      have alike : elements.map renderMasked = elements.map render :=
        List.map_congr_left fun value listed => ih value listed plain
      rw [renderMasked, render, renderMaskedAll_eq_map, renderAll_eq_map, alike]
  | _ => rfl

/-- A member that was read is read from its name. -/
theorem coerce_name_of_coerce {set : EnumSet} {raw : String} {value : Value}
    (trimmed : (Tag.member set).NamesTrimmed)
    (reads : coerce (.member set) (.text raw) = .ok value) :
    coerce (.member set) (.text value.render) = .ok value := by
  rw [coerce] at reads
  obtain ⟨member, found, rfl⟩ := exists_of_map_eq_ok (Outcome.eq_ok_of_maskedIf reads)
  have inSet := set_of_toMember found
  subst inSet
  have lookup : member.set.lookup member.name = some member := by
    have parses := readAs_eq_ok_iff.1 found
    rw [Literal.readMember] at parses
    split at parses
    · next looked =>
        cases parses
        exact EnumSet.lookup_name_of_lookup looked
    · cases parses
  have listed : member.name ∈ member.set.members := List.get_mem ..
  have again : readAs (.member member.set.name) (Literal.readMember member.set) member.name =
      .ok member := by
    simp only [readAs, trimmed _ listed, Literal.readMember, String.ofList_toList, lookup]
    rfl
  exact Outcome.maskedIf_map_of_ok again _ _

/-- A scalar that was read, and is no duration, is read from its text. -/
theorem coerce_render_of_coerce {tag : Tag} {raw : String} {value : Value}
    (scalar : tag.isList = false) (trimmed : tag.NamesTrimmed) (noDuration : tag ≠ .duration)
    (reads : coerce tag (.text raw) = .ok value) : coerce tag (.text value.render) = .ok value := by
  have typed := hasTag_of_coerce_scalar scalar reads
  have durations : ∀ duration, value = .duration duration → duration.ReadsBack := by
    rintro duration rfl
    cases typed
    exact absurd rfl noDuration
  by_cases nan : value = .float .nan ∨ value = .double .nan
  · rcases nan with rfl | rfl
    · cases typed
      rfl
    · cases typed
      rfl
  · cases tag with
    | member set => exact coerce_name_of_coerce trimmed reads
    | list element => cases scalar
    | _ => exact coerce_render_scalar typed rfl trivial (not_or.1 nan) durations

/-- What was read as a scalar other than a duration is read again from its masked text, as a value
with the same masked text. -/
theorem coerce_renderMasked_scalar {tag : Tag} {raw : String} {value : Value}
    (scalar : tag.isList = false) (trimmed : tag.NamesTrimmed) (noDuration : tag ≠ .duration)
    (reads : coerce tag (.text raw) = .ok value) :
    ∃ again, coerce tag (.text value.renderMasked) = .ok again ∧
      again.renderMasked = value.renderMasked := by
  cases plain : tag.isSensitive with
  | false =>
      have text := (hasTag_of_coerce_scalar scalar reads).renderMasked_eq plain
      refine ⟨value, ?_, rfl⟩
      rw [text]
      exact coerce_render_of_coerce scalar trimmed noDuration reads
  | true =>
      cases tag with
      | secret =>
          cases reads
          exact ⟨.secret ⟨Secret.mask⟩, rfl, rfl⟩
      | list element => cases scalar
      | _ => cases plain

theorem toElements_text (raw : String) :
    toElements (.text raw) =
      Outcome.ofExcept ((splitText elementDelimiter raw).map (List.map .text)) := by
  rw [toElements, render]
  intro elements list
  cases list

/-- A text is read as a list if it splits and each item is read as an element. -/
theorem coerce_list_text_eq_ok_iff {element : Tag} {raw : String} {value : Value}
    (scalar : element.isList = false) :
    coerce (.list element) (.text raw) = .ok value ↔
      ∃ items elements, splitText elementDelimiter raw = .ok items ∧
        List.Forall₂ (fun item value => coerce element (.text item) = .ok value) items elements ∧
        value = .list elements := by
  rw [coerce_list scalar, toElements_text]
  constructor
  · intro reads
    have result := Outcome.eq_ok_of_maskedIf reads
    cases splits : splitText elementDelimiter raw with
    | error error =>
        rw [splits] at result
        cases result
    | ok items =>
        rw [splits] at result
        obtain ⟨elements, each, rfl⟩ := exists_of_map_eq_ok result
        rw [List.mapM_map, mapM_eq_ok_iff] at each
        exact ⟨items, elements, rfl, each, rfl⟩
  · rintro ⟨items, elements, splits, each, rfl⟩
    have reads : (items.map Value.text).mapM (coerce element) = .ok elements := by
      rw [List.mapM_map, mapM_eq_ok_iff]
      exact each
    rw [splits]
    exact Outcome.maskedIf_map_of_ok reads _ _

/-- The elements of a list are read again from their masked texts. -/
theorem exists_forall₂_coerce_renderMasked {element : Tag} {items : List String}
    {elements : List Value} (scalar : element.isList = false) (trimmed : element.NamesTrimmed)
    (noDuration : element ≠ .duration)
    (each : List.Forall₂ (fun item value => coerce element (.text item) = .ok value)
      items elements) :
    ∃ again, List.Forall₂ (fun item value => coerce element (.text item) = .ok value)
        (elements.map renderMasked) again ∧
      again.map renderMasked = elements.map renderMasked := by
  induction each with
  | nil => exact ⟨[], .nil, rfl⟩
  | cons first _ ih =>
      obtain ⟨value, reads, text⟩ := coerce_renderMasked_scalar scalar trimmed noDuration first
      obtain ⟨again, others, texts⟩ := ih
      refine ⟨value :: again, .cons reads others, ?_⟩
      rw [List.map_cons, List.map_cons, text, texts]

/-- What was read under a type without durations is read again from its masked text, as a value
with the same masked text. -/
theorem coerce_renderMasked {tag : Tag} {raw : String} {value : Value} (trimmed : tag.NamesTrimmed)
    (noDuration : tag.innermost ≠ .duration) (reads : coerce tag (.text raw) = .ok value) :
    ∃ again, coerce tag (.text value.renderMasked) = .ok again ∧
      again.renderMasked = value.renderMasked := by
  cases isList : tag.isList with
  | false =>
      rw [Tag.innermost_of_isList isList] at noDuration
      exact coerce_renderMasked_scalar isList trimmed noDuration reads
  | true =>
      cases tag with
      | list element =>
          have scalar := flat_of_coerce reads element rfl
          rw [Tag.innermost, Tag.innermost_of_isList scalar] at noDuration
          obtain ⟨items, elements, -, each, rfl⟩ := (coerce_list_text_eq_ok_iff scalar).1 reads
          obtain ⟨again, reread, texts⟩ :=
            exists_forall₂_coerce_renderMasked scalar trimmed noDuration each
          refine ⟨.list again, ?_, ?_⟩
          · rw [coerce_list_text_eq_ok_iff scalar, renderMasked, renderMaskedAll_eq_map]
            exact ⟨_, again, splitText_joinElements _, reread, rfl⟩
          · simp only [renderMasked, renderMaskedAll_eq_map, texts]
      | _ => cases isList

end Value

end Settings
