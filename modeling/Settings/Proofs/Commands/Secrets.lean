import Settings.Proofs.Commands.Shown
import Settings.Proofs.MaskedText

/-!
What the commands show does not depend on secrets.

Two texts are indistinct under a type of secrets if nothing of what is shown tells them apart:
any two passwords, and any two lists of passwords with as many elements.  Two stores that differ
in indistinct texts only are shown alike (`shownAs_of_indistinct`), and under a type without
secrets there is nothing to reveal (`Value.HasTag.renderMasked_eq`).
-/

namespace Settings

open Value

namespace Command

/-- The two texts cannot be told apart by what is shown of them under the type: as passwords, as
lists of passwords with as many elements, or as lists of lists, which no text is read as. -/
inductive Indistinct : Tag → String → String → Prop where
  | secret (left right : String) : Indistinct .secret left right
  | list {left right : String} {lefts rights : List String}
      (splitLeft : splitText elementDelimiter left = .ok lefts)
      (splitRight : splitText elementDelimiter right = .ok rights)
      (alike : lefts.length = rights.length) : Indistinct (.list .secret) left right
  | nested {element : Tag} (sensitive : element.isSensitive = true) (left right : String) :
      Indistinct (.list (.list element)) left right

/-- Of a list of passwords the number of the passwords is shown. -/
theorem shownAs_list_secret {raw : String} {items : List String}
    (splits : splitText elementDelimiter raw = .ok items) :
    shownAs (some (.list .secret)) raw =
      .ok (joinElements (List.replicate items.length Secret.mask)) := by
  have secrets : List.Forall₂ (fun item value => coerce .secret (.text item) = .ok value) items
      (items.map fun item => .secret ⟨item⟩) := by
    rw [List.forall₂_map_right_iff, List.forall₂_same]
    intro item _
    rfl
  have masked : (items.map fun item => Value.secret ⟨item⟩).map renderMasked =
      List.replicate items.length Secret.mask := by
    rw [List.map_map]
    exact List.map_const'
  have reads := (coerce_list_text_eq_ok_iff rfl).2 ⟨items, _, splits, secrets, rfl⟩
  rw [shownAs, reads]
  change Except.ok (renderMasked (.list _)) = _
  rw [renderMasked, renderMaskedAll_eq_map, masked]

/-- What is shown of indistinct texts is the same. -/
theorem shownAs_of_indistinct {tag : Tag} {left right : String}
    (indistinct : Indistinct tag left right) :
    shownAs (some tag) left = shownAs (some tag) right := by
  cases indistinct with
  | secret => rfl
  | list splitLeft splitRight alike =>
      rw [shownAs_list_secret splitLeft, shownAs_list_secret splitRight, alike]
  | nested sensitive =>
      rw [shownAs, shownAs, coerce, coerce]
      rfl

/-- Indistinct texts are shown, unless their type is a list of lists. -/
theorem exists_shownAs_of_indistinct {tag : Tag} {left right : String}
    (indistinct : Indistinct tag left right) (flat : tag.Flat) :
    ∃ text, shownAs (some tag) left = .ok text := by
  cases indistinct with
  | secret => exact ⟨_, rfl⟩
  | list splitLeft _ _ => exact ⟨_, shownAs_list_secret splitLeft⟩
  | nested _ => cases flat _ rfl

/-! ### One setting -/

section

variable {store : Store} {key tagText : String}

theorem get_of_readTag {tag : Tag} (reads : Literal.readTag tagText.toList = .ok tag)
    (reveal : Bool) :
    get store key tagText reveal =
      (store.getValue key tag).mapError (Stop.map .store) >>= fun found =>
        match found with
        | none => .error (.failed (.keyNotSet key))
        | some value => .ok (if reveal then value.render else value.renderMasked) := by
  rw [get, reads]
  rfl

/-- Without `reveal` a setting that is present is shown as its type says. -/
theorem get_eq_shownAs {raw : String} {tag : Tag}
    (reads : Literal.readTag tagText.toList = .ok tag) (present : store.raw? key = some raw) :
    get store key tagText false =
      (shownAs (some tag) raw).mapError (Stop.map fun error => .store (.conversion key error)) := by
  simp only [get_of_readTag reads, shownAs, Store.getValue, present]
  cases coerce tag (.text raw) with
  | ok value => rfl
  | error stop => cases stop <;> rfl

/-- Under a type without secrets there is nothing to reveal. -/
theorem get_reveal
    (plain : ∀ tag, Literal.readTag tagText.toList = .ok tag → tag.isSensitive = false) :
    get store key tagText true = get store key tagText false := by
  cases reads : Literal.readTag tagText.toList with
  | error error =>
      rw [get, get, reads]
      rfl
  | ok tag =>
      simp only [get_of_readTag reads, Store.getValue]
      cases store.raw? key with
      | none => rfl
      | some raw =>
          simp only
          cases result : coerce tag (.text raw) with
          | error stop => rfl
          | ok value =>
              have same := (hasTag_of_coerce result).renderMasked_eq (plain tag reads)
              exact congrArg Except.ok same.symm

end

/-! ### All settings -/

/-- Two stores with the same keys and, under each of them, texts that are equal or indistinct under
the declared type. -/
structure Alike (entries : List String) (left right : Store) : Prop where
  keys : left.keys = right.keys
  each : ∀ key leftRaw rightRaw, left.raw? key = some leftRaw → right.raw? key = some rightRaw →
    leftRaw = rightRaw ∨ ∃ tag, Declared entries key tag ∧ Indistinct tag leftRaw rightRaw

theorem mapM_showSetting_of_alike {entries : List String} {schema : Table Tag} {left right : Store}
    (reads : readSchema entries = .ok schema) (alike : Alike entries left right) :
    left.texts.entries.mapM (showSetting schema) =
      right.texts.entries.mapM (showSetting schema) := by
  have keys : right.texts.keys = left.texts.keys := alike.keys.symm
  rw [left.texts.entries_eq_map_keys "", right.texts.entries_eq_map_keys "", keys,
    List.mapM_map, List.mapM_map]
  apply mapM_congr
  intro key listed
  obtain ⟨leftRaw, inLeft⟩ := Table.mem_keys_iff.1 listed
  obtain ⟨rightRaw, inRight⟩ := Table.mem_keys_iff.1 (keys ▸ listed)
  simp only [Function.comp_apply, inLeft, inRight, Option.getD_some]
  rcases alike.each key leftRaw rightRaw inLeft inRight with rfl | ⟨tag, declared, indistinct⟩
  · rfl
  · have found := (get?_readSchema reads).2 declared
    simp only [showSetting, found, shownAs_of_indistinct indistinct]

/-- The text of all settings, or the error, does not tell apart stores that differ in secrets. -/
theorem renderAll_of_alike {entries : List String} {left right : Store}
    (alike : Alike entries left right) : renderAll left entries = renderAll right entries := by
  rw [renderAll_eq, renderAll_eq]
  cases reads : readSchema entries with
  | error error => rfl
  | ok schema =>
      have opened : Outcome.ofExcept (.ok schema) = (.ok schema : Outcome CommandError _) := rfl
      rw [opened, ok_bind, ok_bind, mapM_showSetting_of_alike reads alike]

/-- Without `reveal` the commands show stores alike that differ in secrets only, and where there
are no secrets `reveal` changes nothing. -/
theorem secrets_not_shown :
    (∀ (entries : List String) (left right : Store), Alike entries left right →
      renderAll left entries = renderAll right entries) ∧
    (∀ (left right : Store) (key tagText leftRaw rightRaw : String) (tag : Tag),
      left.raw? key = some leftRaw → right.raw? key = some rightRaw →
      Literal.readTag tagText.toList = .ok tag → Indistinct tag leftRaw rightRaw →
      get left key tagText false = get right key tagText false ∧
        (tag.Flat → ∃ text, get left key tagText false = .ok text)) ∧
    (∀ (store : Store) (key tagText : String),
      (∀ tag, Literal.readTag tagText.toList = .ok tag → tag.isSensitive = false) →
      get store key tagText true = get store key tagText false) := by
  refine ⟨fun entries left right alike => renderAll_of_alike alike, ?_, ?_⟩
  · intro left right key tagText leftRaw rightRaw tag inLeft inRight reads indistinct
    rw [get_eq_shownAs reads inLeft, get_eq_shownAs reads inRight]
    constructor
    · rw [shownAs_of_indistinct indistinct]
    · intro flat
      obtain ⟨text, shown⟩ := exists_shownAs_of_indistinct indistinct flat
      exact ⟨text, by rw [shown]; rfl⟩
  · intro store key tagText plain
    exact get_reveal plain

/-- A password that an earlier entry declares to be a number, and two lists of two passwords. -/
theorem secrets_not_shown_samples :
    renderAll ⟨⟨[("port", "80"), ("secret", "hunter2"), ("tokens", "a,'b, c'")], by decide⟩⟩
        ["secret=int", " secret = PASSWORD", "tokens=list<text>", "tokens=list<secret>"] =
      renderAll ⟨⟨[("port", "80"), ("secret", "swordfish"), ("tokens", "d,e")], by decide⟩⟩
        ["secret=int", " secret = PASSWORD", "tokens=list<text>", "tokens=list<secret>"] ∧
    get ⟨⟨[("tokens", "a,'b, c'")], by decide⟩⟩ "tokens" "list<secret>" false =
      get ⟨⟨[("tokens", "d,e")], by decide⟩⟩ "tokens" "list<secret>" false ∧
    get ⟨⟨[("tokens", "d,e")], by decide⟩⟩ "tokens" "text" true =
      get ⟨⟨[("tokens", "d,e")], by decide⟩⟩ "tokens" "text" false := by
  have password : Literal.readTag " PASSWORD".toList = .ok .secret := by
    rw [Literal.readTag]
    rfl
  have text : Literal.readTag "text".toList = .ok .text := by
    rw [Literal.readTag]
    rfl
  have list : Literal.readTag "list<secret>".toList = .ok (.list .secret) := by
    have inner : Literal.readTag "secret".toList = .ok .secret := by
      rw [Literal.readTag]
      rfl
    have outer : Literal.stripWrapper? "list<".toList '>' (Text.trim "list<secret>".toList) =
        some "secret".toList := by decide
    rw [Literal.readTag_of_list outer, inner]
    rfl
  have secret : Declares " secret = PASSWORD" "secret" .secret :=
    @Declares.intro " secret ".toList " PASSWORD".toList .secret (by decide) password
  have secrets : Declares "tokens=list<secret>" "tokens" (.list .secret) :=
    @Declares.intro "tokens".toList "list<secret>".toList _ (by decide) list
  have apart : ∀ tokens ∈ ["tokens=list<text>", "tokens=list<secret>"], ∀ other,
      ¬Declares tokens "secret" other := by
    have keys : ∀ tokens ∈ ["tokens=list<text>", "tokens=list<secret>"], "secret" ≠
        String.ofList (Text.trim (tokens.toList.takeWhile fun c => decide (c ≠ '='))) := by
      decide
    exact fun tokens listed other declares => keys tokens listed declares.key_eq
  have alike : Indistinct (.list .secret) "a,'b, c'" "d,e" := by
    have left : joinElements ["a", "b, c"] = "a,'b, c'" := by decide
    have right : joinElements ["d", "e"] = "d,e" := by decide
    rw [← left, ← right]
    exact .list (splitText_joinElements _) (splitText_joinElements _) rfl
  refine ⟨secrets_not_shown.1 _ _ _ ⟨rfl, ?_⟩, ?_, ?_⟩
  · intro key leftRaw rightRaw inLeft inRight
    have listed := Entries.mem_of_find? inLeft
    simp only [List.mem_cons, Prod.mk.injEq, List.not_mem_nil, or_false] at listed
    rcases listed with ⟨rfl, rfl⟩ | ⟨rfl, rfl⟩ | ⟨rfl, rfl⟩
    · exact .inl (Option.some.inj inRight)
    · exact .inr ⟨.secret, .later (.last secret apart), .secret _ _⟩
    · cases inRight
      exact .inr ⟨.list .secret, .later (.later (.later (.last secrets (by simp)))), alike⟩
  · exact (secrets_not_shown.2.1 _ _ _ _ _ _ _ rfl rfl list alike).1
  · apply secrets_not_shown.2.2
    intro tag reads
    rw [text] at reads
    cases reads
    rfl

end Command

end Settings
