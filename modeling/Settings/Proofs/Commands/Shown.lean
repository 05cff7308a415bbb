import Settings.Proofs.Commands.Schema

/-!
What is shown of the settings of a store.

Every setting is shown by itself: what is shown of it depends on the tag that is declared for
its key and on its raw text (`shownAs`).  So the command on all settings succeeds exactly if the
schema can be read and each setting can be shown, and then writes the table of what is shown of
each setting.
-/

namespace Settings

theorem Outcome.ofExcept_eq_ok_iff {ε α : Type} {result : Except ε α} {value : α} :
    Outcome.ofExcept result = .ok value ↔ result = .ok value := by
  cases result <;> simp [Outcome.ofExcept, Except.mapError]

namespace Command

/-- The text shown for a raw text under the tag that is declared for its key, if one is. -/
def shownAs (declared : Option Tag) (raw : String) : Outcome ConversionError String :=
  match declared with
  | none => .ok raw
  | some tag => (coerce tag (.text raw)).map Value.renderMasked

/-- What is shown of a setting has its key, and the text for its raw text under the schema. -/
def ShownUnder (schema : Table Tag) (setting shown : String × String) : Prop :=
  shown.1 = setting.1 ∧ shownAs (schema.get? setting.1) setting.2 = .ok shown.2

/-- A setting, shown by itself. -/
def showSetting (schema : Table Tag) (setting : String × String) :
    Outcome CommandError (String × String) :=
  ((shownAs (schema.get? setting.1) setting.2).mapError
    (Stop.map fun error => .store (.conversion setting.1 error))).map (setting.1, ·)

section

variable {store : Store} {schema : Table Tag}

/-- Of the store only the raw text of the setting counts. -/
theorem renderSetting_eq {setting : String × String} (listed : setting ∈ store.texts.entries) :
    renderSetting store schema setting = showSetting schema setting := by
  have present : store.raw? setting.1 = some setting.2 :=
    store.texts.sorted.find?_eq_some_iff.2 listed
  rw [showSetting]
  cases declared : schema.get? setting.1 with
  | none => simp [renderSetting, declared, shownAs, Except.mapError, Except.map]
  | some tag =>
      simp only [renderSetting, declared, Store.getValue, present, shownAs]
      cases coerce tag (.text setting.2) with
      | ok value => rfl
      | error stop => cases stop <;> rfl

theorem showSetting_eq_ok_iff {setting shown : String × String} :
    showSetting schema setting = .ok shown ↔ ShownUnder schema setting shown := by
  rw [showSetting, ShownUnder]
  cases shownAs (schema.get? setting.1) setting.2 with
  | ok text => simp [Except.mapError, Except.map, Prod.ext_iff, eq_comm]
  | error stop => simp [Except.mapError, Except.map]

/-- The command on all settings reads the schema, shows each setting and writes the results. -/
theorem renderAll_eq (store : Store) (entries : List String) :
    renderAll store entries = do
      let schema ← Outcome.ofExcept (readSchema entries)
      let shown ← store.texts.entries.mapM (showSetting schema)
      return Properties.write (Table.ofList shown) := by
  rw [renderAll]
  congr 1
  funext schema
  rw [mapM_congr fun setting listed => renderSetting_eq listed]

theorem ShownUnder.map_fst {settings shown : List (String × String)}
    (each : List.Forall₂ (ShownUnder schema) settings shown) :
    shown.map Prod.fst = settings.map Prod.fst :=
  map_eq_map_of_forall₂ (each.imp fun _ _ shows => shows.1)

/-- What is shown of the settings is a table. -/
theorem exists_entries_eq {settings : List (String × String)}
    (each : List.Forall₂ (ShownUnder schema) store.texts.entries settings) :
    ∃ shown : Table String, shown.entries = settings := by
  have sorted : (store.texts.entries.map Prod.fst).Pairwise (· < ·) :=
    List.pairwise_map.2 store.texts.sorted
  rw [← ShownUnder.map_fst each] at sorted
  exact ⟨⟨settings, List.pairwise_map.1 sorted⟩, rfl⟩

/-- The command on all settings writes the table of what is shown of each of them. -/
theorem renderAll_eq_ok_iff {entries : List String} {text : String} :
    renderAll store entries = .ok text ↔
      ∃ schema shown, readSchema entries = .ok schema ∧
        List.Forall₂ (ShownUnder schema) store.texts.entries shown.entries ∧
        Properties.write shown = text := by
  rw [renderAll_eq]
  constructor
  · intro writes
    obtain ⟨schema, reads, writes⟩ := exists_of_bind_eq_ok writes
    obtain ⟨settings, each, writes⟩ := exists_of_bind_eq_ok writes
    simp only [mapM_eq_ok_iff, showSetting_eq_ok_iff] at each
    obtain ⟨shown, rfl⟩ := exists_entries_eq each
    rw [Table.ofList_entries] at writes
    cases writes
    exact ⟨schema, shown, Outcome.ofExcept_eq_ok_iff.1 reads, each, rfl⟩
  · rintro ⟨schema, shown, reads, each, rfl⟩
    have settings : store.texts.entries.mapM (showSetting schema) = .ok shown.entries := by
      simpa only [mapM_eq_ok_iff, showSetting_eq_ok_iff] using each
    rw [Outcome.ofExcept_eq_ok_iff.2 reads, ok_bind, settings, ok_bind, Table.ofList_entries]
    rfl

/-- The command on all settings succeeds if the schema can be read and each setting shown. -/
theorem exists_renderAll_eq_ok_iff {entries : List String} :
    (∃ text, renderAll store entries = .ok text) ↔
      ∃ schema, readSchema entries = .ok schema ∧
        ∀ key raw, store.raw? key = some raw →
          ∃ text, shownAs (schema.get? key) raw = .ok text := by
  have listed : ∀ key raw, store.raw? key = some raw ↔ (key, raw) ∈ store.texts.entries :=
    fun key raw => store.texts.sorted.find?_eq_some_iff
  have each : ∀ schema, (∃ settings, store.texts.entries.mapM (showSetting schema) = .ok settings) ↔
      ∀ key raw, store.raw? key = some raw →
        ∃ text, shownAs (schema.get? key) raw = .ok text := by
    intro schema
    simp only [exists_mapM_eq_ok_iff, showSetting_eq_ok_iff, ShownUnder, Prod.forall, Prod.exists,
      listed, exists_and_left, exists_eq_left]
  constructor
  · rintro ⟨text, writes⟩
    rw [renderAll_eq] at writes
    obtain ⟨schema, reads, writes⟩ := exists_of_bind_eq_ok writes
    obtain ⟨settings, shown, -⟩ := exists_of_bind_eq_ok writes
    exact ⟨schema, Outcome.ofExcept_eq_ok_iff.1 reads, (each schema).1 ⟨settings, shown⟩⟩
  · rintro ⟨schema, reads, every⟩
    obtain ⟨settings, shown⟩ := (each schema).2 every
    rw [renderAll_eq, Outcome.ofExcept_eq_ok_iff.2 reads, ok_bind, shown]
    exact ⟨_, rfl⟩

end

end Command

end Settings
