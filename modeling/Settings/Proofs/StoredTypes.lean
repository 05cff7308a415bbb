import Settings.Proofs.Typing
import Settings.Store.Basic

/-!
The types of the host language that stores read and write.

The elements of such a type are the values of its tag (`Typed.Lawful`): each element makes a
value of the tag, and each value of the tag is made of an element.  What a coercion to the
tag gives is therefore an element of the type, and a typed read never finds a value that it
cannot use.
-/

namespace Settings

namespace Typed

/-- The elements of the type are the values of its tag. -/
structure Lawful (α : Type) [Typed α] : Prop where
  ofValue?_toValue : ∀ element : α, ofValue? (toValue element) = some element
  hasTag_toValue : ∀ element : α, (toValue element).HasTag (tag α)
  exists_toValue : ∀ value : Value, value.HasTag (tag α) → ∃ element : α, toValue element = value

/-- The types whose tags are scalars. -/
inductive Scalar : (α : Type) → [Typed α] → Prop where
  | int : Scalar Int32
  | long : Scalar Int64
  | bool : Scalar Bool
  | float : Scalar (Binary .single)
  | double : Scalar (Binary .double)
  | text : Scalar String
  | secret : Scalar Secret
  | duration : Scalar Duration
  | memorySize : Scalar MemorySize
  | map : Scalar (Table String)

/-- The types that can be stored and read again: scalars and lists of them, but no lists of
lists. -/
inductive Storable : (α : Type) → [Typed α] → Prop where
  | scalar {α : Type} [Typed α] (scalar : Scalar α) : Storable α
  | list {α : Type} [Typed α] (scalar : Scalar α) : Storable (List α)

variable {α : Type} [Typed α]

theorem Scalar.isList (scalar : Scalar α) : (tag α).isList = false := by
  cases scalar <;> rfl

/-- No enumeration is among the scalar types. -/
theorem Scalar.wellNamed (scalar : Scalar α) : (tag α).WellNamed := by
  cases scalar <;> trivial

theorem Scalar.lawful (scalar : Scalar α) : Lawful α where
  ofValue?_toValue element := by cases scalar <;> rfl
  hasTag_toValue element := by cases scalar <;> constructor
  exists_toValue value typed := by
    cases scalar <;> cases typed <;> exact ⟨_, rfl⟩

theorem Lawful.exists_map_toValue (lawful : Lawful α) {values : List Value}
    (each : ∀ value ∈ values, value.HasTag (tag α)) :
    ∃ elements : List α, elements.map toValue = values := by
  induction values with
  | nil => exact ⟨[], rfl⟩
  | cons value rest ih =>
      obtain ⟨element, rfl⟩ := lawful.exists_toValue value (each value (List.mem_cons_self ..))
      obtain ⟨elements, rfl⟩ := ih fun later listed => each later (List.mem_cons_of_mem _ listed)
      exact ⟨element :: elements, rfl⟩

/-- Lists of a lawful type are lawful, since their elements are turned into values one by
one and back. -/
theorem Lawful.list (lawful : Lawful α) : Lawful (List α) where
  ofValue?_toValue elements :=
    mapM_map_eq_pure fun element _ => lawful.ofValue?_toValue element
  hasTag_toValue elements := by
    apply Value.HasTag.list
    intro value listed
    obtain ⟨element, -, rfl⟩ := List.mem_map.1 listed
    exact lawful.hasTag_toValue element
  exists_toValue value typed := by
    cases typed with
    | list each =>
        obtain ⟨elements, rfl⟩ := lawful.exists_map_toValue each
        exact ⟨elements, rfl⟩

theorem Storable.lawful (storable : Storable α) : Lawful α := by
  cases storable with
  | scalar scalar => exact scalar.lawful
  | list scalar => exact scalar.lawful.list

theorem Storable.flat (storable : Storable α) : (tag α).Flat := by
  cases storable with
  | scalar scalar => exact Tag.flat_of_isList scalar.isList
  | list scalar => exact Tag.flat_list scalar.isList

end Typed

/-! ### Typed reads -/

namespace Store

variable {α : Type} [Typed α] {store : Store} {key text : String}

theorem get_of_absent (absent : store.raw? key = none) : store.get α key = .ok none := by
  rw [get, getValue, absent]
  rfl

/-- A typed read gives the element whose value the coercion of the stored text gives. -/
theorem get_of_coerce (lawful : Typed.Lawful α) (present : store.raw? key = some text)
    {element : α} (reads : coerce (Typed.tag α) (.text text) = .ok (Typed.toValue element)) :
    store.get α key = .ok (some element) := by
  have found : store.getValue key (Typed.tag α) = .ok (some (Typed.toValue element)) := by
    rw [getValue, present]
    dsimp only
    rw [reads]
    rfl
  rw [get, found, ok_bind]
  dsimp only
  rw [lawful.ofValue?_toValue]
  rfl

/-- A typed read fails as the coercion of the stored text fails. -/
theorem get_of_coerce_error (present : store.raw? key = some text) {stop : Stop ConversionError}
    (fails : coerce (Typed.tag α) (.text text) = .error stop) :
    store.get α key = .error (stop.map (.conversion key)) := by
  rw [get, getValue, present]
  dsimp only
  rw [fails]
  rfl

/-- A type that can be stored is supported by every read. -/
theorem get_ne_unsupported (storable : Typed.Storable α) (store : Store)
    (key place name : String) :
    store.get α key ≠ .error (.failed (.conversion place (.unsupported name))) := by
  intro fails
  cases present : store.raw? key with
  | none =>
      rw [get_of_absent present] at fails
      cases fails
  | some text =>
      cases result : coerce (Typed.tag α) (.text text) with
      | ok value =>
          have typed := Value.hasTag_of_coerce result
          obtain ⟨element, rfl⟩ := storable.lawful.exists_toValue value typed
          rw [get_of_coerce storable.lawful present result] at fails
          cases fails
      | error stop =>
          rw [get_of_coerce_error present result] at fails
          cases stop with
          | failed error =>
              cases fails
              exact kind_ne_unsupported_of_flat storable.flat result rfl
          | aborted cause => cases fails

end Store

/-- Coercion is sound and idempotent.  Its results have the type at every depth and are left
alone by a second coercion, and so is every value that has the type from the start.  A typed
read of a store thus never ends in an unsupported type.  Floating-point numbers are equal here if
their bits are, but for the payloads of NaN, which the model does not distinguish: a number that
has the type is passed on as it is. -/
theorem coerce_sound_and_idempotent :
    (∀ tag raw value, coerce tag raw = .ok value →
      value.HasTag tag ∧ coerce tag value = .ok value) ∧
    (∀ tag value, value.HasTag tag → tag.Flat → coerce tag value = .ok value) ∧
    ∀ (α : Type) [Typed α], Typed.Storable α → ∀ (store : Store) (key place name : String),
      store.get α key ≠ .error (.failed (.conversion place (.unsupported name))) := by
  refine ⟨?_, ?_, ?_⟩
  · intro tag raw value coerces
    have typed := Value.hasTag_of_coerce coerces
    exact ⟨typed, typed.coerce (Value.flat_of_coerce coerces)⟩
  · intro tag value typed flat
    exact typed.coerce flat
  · intro α _ storable
    exact Store.get_ne_unsupported storable

/-- A list of integers from a text and an integer of another width, a list with a NaN, and a
store whose text is no list of integers. -/
theorem coerce_sound_and_idempotent_samples :
    coerce (.list .int) (.list [.text " 1", .long (-2)]) = .ok (.list [.int 1, .int (-2)]) ∧
      coerce (.list .int) (.list [.int 1, .int (-2)]) = .ok (.list [.int 1, .int (-2)]) ∧
      coerce (.list .float) (.list [.float .nan]) = .ok (.list [.float .nan]) ∧
      (Store.empty.setText "ports" "1,b").get (List Int32) "ports" ≠
        .error (.failed (.conversion "ports" (.unsupported "list<int>"))) := by
  have reads : coerce (.list .int) (.list [.text " 1", .long (-2)]) =
      .ok (.list [.int 1, .int (-2)]) := rfl
  obtain ⟨results, values, stores⟩ := coerce_sound_and_idempotent
  have nan : (Value.list [.float .nan]).HasTag (.list .float) := by
    apply Value.HasTag.list
    intro value listed
    rw [List.mem_singleton.1 listed]
    exact Value.HasTag.float _
  exact ⟨reads, (results _ _ _ reads).2, values _ _ nan (Tag.flat_list rfl),
    stores (List Int32) (.list .int) _ _ _ _⟩

end Settings
