import Settings.Proofs.Commands.Shown
import Settings.Proofs.MaskedText
import Settings.Proofs.Properties.Export

/-!
The text of all settings as properties.

It is read as properties with the keys of the store, and each text is that shown of the setting.
Unless a duration is declared, a text that is shown is shown of itself
(`shownAs_shown`), so the text of all settings is shown of the store that it describes.
-/

namespace Settings.Command

/-- The names of members in a declared type have no white space at their ends. -/
theorem Declared.namesTrimmed {entries : List String} {key : String} {tag : Tag}
    (declared : Declared entries key tag) : tag.NamesTrimmed := by
  induction declared with
  | last declares _ =>
      obtain ⟨-, reads⟩ := declares
      exact Literal.namesTrimmed_of_readTag reads
  | later _ ih => exact ih

/-- A text that is shown is shown of itself, unless a duration is declared. -/
theorem shownAs_shown {declared : Option Tag} {raw text : String}
    (trimmed : ∀ tag, declared = some tag → tag.NamesTrimmed)
    (noDuration : ∀ tag, declared = some tag → tag.innermost ≠ .duration)
    (shows : shownAs declared raw = .ok text) : shownAs declared text = .ok text := by
  cases declared with
  | none => rfl
  | some tag =>
      obtain ⟨value, reads, rfl⟩ := exists_of_map_eq_ok shows
      obtain ⟨again, rereads, same⟩ :=
        Value.coerce_renderMasked (trimmed tag rfl) (noDuration tag rfl) reads
      rw [shownAs, rereads, ← same]
      rfl

section

variable {store : Store} {schema : Table Tag} {shown : Table String}

theorem get?_of_shownUnder
    (each : List.Forall₂ (ShownUnder schema) store.texts.entries shown.entries) {key raw : String}
    (present : store.raw? key = some raw) :
    ∃ text, shown.get? key = some text ∧ shownAs (schema.get? key) raw = .ok text := by
  have listed : (key, raw) ∈ store.texts.entries := store.texts.sorted.find?_eq_some_iff.1 present
  obtain ⟨⟨name, text⟩, inside, same, shows⟩ := exists_of_forall₂_left each listed
  cases same
  exact ⟨text, shown.sorted.find?_eq_some_iff.2 inside, shows⟩

/-- What is shown of the settings is shown of itself. -/
theorem shownUnder_shown (trimmed : ∀ key tag, schema.get? key = some tag → tag.NamesTrimmed)
    (noDuration : ∀ key tag, schema.get? key = some tag → tag.innermost ≠ .duration)
    (each : List.Forall₂ (ShownUnder schema) store.texts.entries shown.entries) :
    List.Forall₂ (ShownUnder schema) shown.entries shown.entries := by
  rw [List.forall₂_same]
  intro entry listed
  obtain ⟨setting, -, same, shows⟩ := exists_of_forall₂_right each listed
  rw [← same] at shows
  exact ⟨rfl, shownAs_shown (trimmed entry.1) (noDuration entry.1) shows⟩

end

/-- The command on all settings succeeds if every entry of the schema declares something and every
declared setting can be read. -/
theorem exists_renderAll_iff_declared (store : Store) (entries : List String) :
    (∃ text, renderAll store entries = .ok text) ↔
      (∀ entry ∈ entries, ∃ key tag, Declares entry key tag) ∧
      ∀ key raw tag, store.raw? key = some raw → Declared entries key tag →
        ∃ value, coerce tag (.text raw) = .ok value := by
  rw [exists_renderAll_eq_ok_iff, ← exists_readSchema_eq_ok_iff]
  constructor
  · rintro ⟨schema, reads, shows⟩
    refine ⟨⟨schema, reads⟩, ?_⟩
    intro key raw tag present declared
    obtain ⟨text, shown⟩ := shows key raw present
    rw [(get?_readSchema reads).2 declared] at shown
    obtain ⟨value, coerces, -⟩ := exists_of_map_eq_ok shown
    exact ⟨value, coerces⟩
  · rintro ⟨⟨schema, reads⟩, coerces⟩
    refine ⟨schema, reads, ?_⟩
    intro key raw present
    cases declared : schema.get? key with
    | none => exact ⟨raw, rfl⟩
    | some tag =>
        obtain ⟨value, result⟩ := coerces key raw tag present ((get?_readSchema reads).1 declared)
        exact ⟨value.renderMasked, by rw [shownAs, result]; rfl⟩

/-- The text of all settings is read as properties with the keys of the store.  An undeclared
setting has its raw text there, and a declared one the masked text of its value.  If no duration
is declared, the text is that of the store it describes. -/
theorem renderAll_faithful (store : Store) (entries : List String) :
    ((∃ text, renderAll store entries = .ok text) ↔
      (∀ entry ∈ entries, ∃ key tag, Declares entry key tag) ∧
      ∀ key raw tag, store.raw? key = some raw → Declared entries key tag →
        ∃ value, coerce tag (.text raw) = .ok value) ∧
    ∀ text, renderAll store entries = .ok text →
      ∃ shown, Properties.read text.toList = .ok shown ∧ shown.keys = store.keys ∧
        (∀ key raw, store.raw? key = some raw → (∀ tag, ¬Declared entries key tag) →
          shown.get? key = some raw) ∧
        (∀ key raw tag, store.raw? key = some raw → Declared entries key tag →
          ∃ value, coerce tag (.text raw) = .ok value ∧
            shown.get? key = some value.renderMasked) ∧
        ((∀ key tag, Declared entries key tag → tag.innermost ≠ .duration) →
          renderAll (Store.ofProperties shown) entries = .ok text) := by
  refine ⟨exists_renderAll_iff_declared store entries, ?_⟩
  intro text writes
  obtain ⟨schema, shown, reads, each, rfl⟩ := renderAll_eq_ok_iff.1 writes
  refine ⟨shown, Properties.read_write shown, ShownUnder.map_fst each, ?undeclared, ?declared,
    ?again⟩
  case undeclared =>
    intro key raw present undeclared
    obtain ⟨text, found, shows⟩ := get?_of_shownUnder each present
    have absent : schema.get? key = none := by
      rw [Option.eq_none_iff_forall_ne_some]
      intro tag declared
      exact undeclared tag ((get?_readSchema reads).1 declared)
    rw [absent] at shows
    cases shows
    exact found
  case declared =>
    intro key raw tag present declared
    obtain ⟨text, found, shows⟩ := get?_of_shownUnder each present
    rw [(get?_readSchema reads).2 declared] at shows
    obtain ⟨value, coerces, rfl⟩ := exists_of_map_eq_ok shows
    exact ⟨value, coerces, found⟩
  case again =>
    intro noDuration
    have again := shownUnder_shown
      (fun key tag declared => ((get?_readSchema reads).1 declared).namesTrimmed)
      (fun key tag declared => noDuration key tag ((get?_readSchema reads).1 declared)) each
    exact renderAll_eq_ok_iff.2 ⟨schema, shown, reads, again, rfl⟩

/-- A declared member in another case, and an undeclared text with an equals sign. -/
theorem renderAll_faithful_samples :
    ∃ text shown,
      renderAll ⟨⟨[("level", "full"), ("note", " a=b")], by decide⟩⟩ ["level=enum(Full|FULL)"] =
        .ok text ∧
      Properties.read text.toList = .ok shown ∧ shown.get? "note" = some " a=b" ∧
      shown.get? "level" = some "Full" ∧
      renderAll (Store.ofProperties shown) ["level=enum(Full|FULL)"] = .ok text := by
  have reads : Literal.readTag "enum(Full|FULL)".toList =
      .ok (.member ⟨"enum", ["Full", "FULL"]⟩) := by
    rw [Literal.readTag]
    rfl
  have declares : Declares "level=enum(Full|FULL)" "level" (.member ⟨"enum", ["Full", "FULL"]⟩) :=
    @Declares.intro "level".toList "enum(Full|FULL)".toList _ (by decide) reads
  have only : ∀ key tag, Declared ["level=enum(Full|FULL)"] key tag →
      key = "level" ∧ tag = .member ⟨"enum", ["Full", "FULL"]⟩ := by
    intro key tag declared
    cases declared with
    | last other _ => exact other.unique declares
    | later none => cases none
  obtain ⟨succeeds, faithful⟩ := renderAll_faithful
    ⟨⟨[("level", "full"), ("note", " a=b")], by decide⟩⟩ ["level=enum(Full|FULL)"]
  have coerces : ∀ key raw tag,
      Store.raw? ⟨⟨[("level", "full"), ("note", " a=b")], by decide⟩⟩ key = some raw →
      Declared ["level=enum(Full|FULL)"] key tag → ∃ value, coerce tag (.text raw) = .ok value := by
    intro key raw tag present declared
    obtain ⟨rfl, rfl⟩ := only key tag declared
    cases present
    exact ⟨_, rfl⟩
  obtain ⟨text, writes⟩ := succeeds.2 ⟨by simpa using ⟨_, _, declares⟩, coerces⟩
  obtain ⟨shown, read, -, undeclared, declared, again⟩ := faithful text writes
  refine ⟨text, shown, writes, read, undeclared "note" _ rfl ?_, ?_, again ?_⟩
  · intro tag declared
    exact absurd (only _ _ declared).1 (by decide)
  · obtain ⟨value, coerces, found⟩ := declared "level" _ _ rfl (.last declares (by simp))
    cases coerces
    exact found
  · intro key tag declared
    obtain ⟨rfl, rfl⟩ := only key tag declared
    intro duration
    cases duration

end Settings.Command
