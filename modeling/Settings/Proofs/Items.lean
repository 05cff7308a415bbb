import Settings.Proofs.Agreement
import Settings.Proofs.MaskedText

/-!
Texts that are read item by item.

Lists and maps have this in common: their text is split at its commas, the items are read one
after the other, and the value is made of what they are read as.  So the text is read just when
it is split and all its items are read, and its reading is abandoned just when that of an item
is.
-/

namespace Settings

/-- Under the type, the items between the commas of a text are read one after the other, and the
value is made of all of them. -/
def ReadsItems {β : Type} (tag : Tag) (read : String → Outcome ConversionError β)
    (make : List β → Value) : Prop :=
  ∀ text, ∃ hide, coerce tag (.text text) =
    Outcome.maskedIf hide (Outcome.ofExcept (splitText elementDelimiter text) >>= fun items =>
      (items.mapM read).map make)

theorem readsItems_list {element : Tag} (scalar : element.isList = false) :
    ReadsItems (.list element) (fun item => coerce element (.text item)) .list := by
  intro text
  refine ⟨_, (coerce_list scalar _).trans (congrArg _ ?_)⟩
  rw [Value.toElements_text]
  cases splitText elementDelimiter text with
  | error error => rfl
  | ok items =>
      have each : (items.map Value.text).mapM (coerce element) =
          items.mapM fun item => coerce element (.text item) := by
        rw [List.mapM_map]
        rfl
      exact congrArg (Except.map Value.list) each

theorem readsItems_map :
    ReadsItems .map (fun item => Outcome.ofExcept (readEntry item))
      (fun entries => .map (Table.ofList entries)) := by
  intro text
  have reads : (Outcome.ofExcept (readMap text)).map Value.map =
      Outcome.ofExcept (splitText elementDelimiter text) >>= fun items =>
        (items.mapM fun item => Outcome.ofExcept (readEntry item)).map
          fun entries => .map (Table.ofList entries) := by
    rw [readMap]
    cases splitText elementDelimiter text with
    | error error => rfl
    | ok items =>
        have each : (items.mapM fun item => Outcome.ofExcept (readEntry item)) =
            Outcome.ofExcept (items.mapM readEntry) := mapM_mapError Stop.failed
        rw [ok_bind]
        change _ = Except.map _ (items.mapM fun item => Outcome.ofExcept (readEntry item))
        rw [each]
        cases items.mapM readEntry <;> rfl
  refine ⟨false, ?_⟩
  rw [← reads]
  rfl

section

variable {β : Type} {tag : Tag} {read : String → Outcome ConversionError β}
  {make : List β → Value}

theorem ReadsItems.coerce_eq_ok_iff (reads : ReadsItems tag read make) {text : String}
    {value : Value} :
    coerce tag (.text text) = .ok value ↔
      ∃ items values, splitText elementDelimiter text = .ok items ∧
        items.mapM read = .ok values ∧ value = make values := by
  obtain ⟨hide, same⟩ := reads text
  rw [same]
  cases splitText elementDelimiter text with
  | error error =>
      refine iff_of_false (fun result => ?_) (by simp)
      cases Outcome.eq_ok_of_maskedIf result
  | ok items =>
      constructor
      · intro result
        obtain ⟨values, each, rfl⟩ := exists_of_map_eq_ok (Outcome.eq_ok_of_maskedIf result)
        exact ⟨items, values, rfl, each, rfl⟩
      · rintro ⟨others, values, splits, each, rfl⟩
        cases splits
        exact Outcome.maskedIf_map_of_ok each hide make

theorem ReadsItems.aborts_iff (reads : ReadsItems tag read make) {text : String} :
    Outcome.Aborts (coerce tag (.text text)) ↔
      ∃ items, splitText elementDelimiter text = .ok items ∧ Outcome.Aborts (items.mapM read) := by
  obtain ⟨hide, same⟩ := reads text
  rw [same, Outcome.aborts_maskedIf_iff]
  cases splitText elementDelimiter text with
  | error error =>
      refine iff_of_false Outcome.not_aborts_failed ?_
      rintro ⟨items, splits, -⟩
      cases splits
  | ok items =>
      constructor
      · intro aborts
        exact ⟨items, rfl, Outcome.aborts_map_iff.1 aborts⟩
      · rintro ⟨others, splits, aborts⟩
        cases splits
        exact Outcome.aborts_map_iff.2 aborts

end

end Settings
