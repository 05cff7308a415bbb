import Settings.Proofs.Properties.Export
import Settings.Proofs.StoredTypes
import Settings.Store.Enumeration

/-!
Runs of operations on a store.

An operation changes the text under a key only if it writes the key and succeeds: one that
fails leaves the whole store as it was.  The text of a stored value thus outlives every run
whose operations spare its key, and a read after the run gives the value back.
-/

namespace Settings.Store

/-! ### Texts after a write -/

theorem raw?_setText (store : Store) (key text other : String) :
    (store.setText key text).raw? other = if other = key then some text else store.raw? other :=
  Table.get?_insert ..

theorem raw?_remove (store : Store) (key other : String) :
    (store.remove key).raw? other = if other = key then none else store.raw? other :=
  Table.get?_erase ..

theorem raw?_override (store other : Store) (key : String) :
    (store.override other).raw? key = (other.raw? key).or (store.raw? key) :=
  Table.get?_override ..

theorem raw?_setText_of_ne {key other : String} (different : key ≠ other) (store : Store)
    (text : String) : (store.setText key text).raw? other = store.raw? other := by
  rw [raw?_setText, if_neg different.symm]

/-- Replace a store by what is read from its own text of properties: how the reading ends, and the
store after it. -/
def reimport (store : Store) : Except StoreError Unit × Store :=
  match Properties.read (Properties.write store.toProperties).toList with
  | .ok properties => (.ok (), ofProperties properties)
  | .error fault => (.error (.malformed fault), store)

/-- A store is what its own text of properties describes. -/
theorem reimport_eq (store : Store) : store.reimport = (.ok (), store) := by
  rw [reimport, Properties.read_write]
  rfl

section

variable {α : Type} [DecidableEq α] {store : Store} {enumeration : Enumeration α} {key : String}
  {variant : α}

/-- A refused variant leaves the store alone. -/
theorem setVariant_of_error {error : StoreError}
    (refused : (store.setVariant enumeration key variant).1 = .error error) :
    (store.setVariant enumeration key variant).2 = store := by
  unfold setVariant at refused ⊢
  split
  · next named =>
      rw [named] at refused
      cases refused
  · rfl

/-- A variant is written under its key, if it is written. -/
theorem raw?_setVariant_of_ne {other : String} (different : key ≠ other) :
    (store.setVariant enumeration key variant).2.raw? other = store.raw? other := by
  unfold setVariant
  split
  · exact raw?_setText_of_ne different store _
  · rfl

end

/-! ### Operations -/

/-- An operation on a store. -/
inductive Operation : Type 1 where
  | getRaw (key : String)
  | contains (key : String)
  | getValue (key : String) (tag : Tag)
  | get (α : Type) [Typed α] (key : String)
  | getOr (α : Type) [Typed α] (key : String) (default : α)
  | getVariant (α : Type) (enumeration : Enumeration α) (key : String)
  | setText (key text : String)
  | setValue (key : String) (value : Value)
  | set (α : Type) [Typed α] (key : String) (value : α)
  | setVariant (α : Type) [DecidableEq α] (enumeration : Enumeration α) (key : String)
      (variant : α)
  | remove (key : String)
  /-- The settings of another store are added. -/
  | override (other : Store)
  /-- The store is replaced by what is read from its own text of properties. -/
  | reimport

/-- A read ends as its outcome does and leaves the store alone. -/
def afterRead {α : Type} (store : Store) (outcome : Outcome StoreError α) :
    Outcome StoreError Unit × Store :=
  (outcome.map fun _ => (), store)

/-- How an operation ends, and the store after it. -/
def Operation.perform (store : Store) : Operation → Outcome StoreError Unit × Store
  | getRaw key => store.afterRead (.ok (store.raw? key))
  | contains key => store.afterRead (.ok (store.contains key))
  | getValue key tag => store.afterRead (store.getValue key tag)
  | get α key => store.afterRead (store.get α key)
  | getOr _ key default => store.afterRead (store.getOr key default)
  | getVariant _ enumeration key => store.afterRead (store.getVariant enumeration key)
  | setText key text => (.ok (), store.setText key text)
  | setValue key value => (.ok (), store.setValue key value)
  | set _ key value => (.ok (), store.set key value)
  | setVariant _ enumeration key variant =>
    (store.setVariant enumeration key variant).map .ofExcept id
  | remove key => (.ok (), store.remove key)
  | override other => (.ok (), store.override other)
  | reimport => store.reimport.map .ofExcept id

/-- The store after a run of operations, however each of them ends. -/
def run (store : Store) (operations : List Operation) : Store :=
  operations.foldl (fun store operation => (operation.perform store).2) store

/-- The operation writes or removes the key if it succeeds. -/
def Operation.Writes (key : String) : Operation → Prop
  | setText target _ => target = key
  | setValue target _ => target = key
  | set _ target _ => target = key
  | setVariant _ _ target _ => target = key
  | remove target => target = key
  | override other => other.contains key = true
  | _ => False

/-- The operation does not write the key, or fails. -/
def Operation.Spares (key : String) (store : Store) (operation : Operation) : Prop :=
  ¬operation.Writes key ∨ ∃ stop, (operation.perform store).1 = .error stop

/-- Each operation of a run spares the key in the store that it meets. -/
def Spared (key : String) (store : Store) : List Operation → Prop
  | [] => True
  | operation :: rest => operation.Spares key store ∧ Spared key (operation.perform store).2 rest

/-! ### What an operation keeps -/

/-- A failed operation leaves the store unchanged. -/
theorem perform_of_error {store : Store} {operation : Operation} {stop : Stop StoreError}
    (fails : (operation.perform store).1 = .error stop) : (operation.perform store).2 = store := by
  cases operation with
  | getRaw | contains | getValue | get | getOr | getVariant => rfl
  | setText | setValue | set | remove | override => cases fails
  | setVariant α enumeration key variant =>
      change Outcome.ofExcept (store.setVariant enumeration key variant).1 = _ at fails
      cases ends : (store.setVariant enumeration key variant).1 with
      | ok =>
          rw [ends] at fails
          cases fails
      | error error => exact setVariant_of_error ends
  | reimport =>
      rw [Operation.perform, reimport_eq]
      rfl

/-- An operation that does not write a key keeps the text under it. -/
theorem raw?_perform_of_not_writes {store : Store} {key : String} {operation : Operation}
    (keeps : ¬operation.Writes key) :
    (operation.perform store).2.raw? key = store.raw? key := by
  cases operation with
  | getRaw | contains | getValue | get | getOr | getVariant => rfl
  | setText target text => exact raw?_setText_of_ne keeps store text
  | setValue target value => exact raw?_setText_of_ne keeps store value.render
  | set α target value => exact raw?_setText_of_ne keeps store (Typed.toValue value).render
  | setVariant α enumeration target variant => exact raw?_setVariant_of_ne keeps
  | remove target => exact (raw?_remove ..).trans (if_neg (Ne.symm keeps))
  | override other =>
      have absent : other.raw? key = none := Option.not_isSome_iff_eq_none.1 keeps
      exact (raw?_override ..).trans (by rw [absent, Option.none_or])
  | reimport =>
      rw [Operation.perform, reimport_eq]
      rfl

theorem raw?_perform {store : Store} {key : String} {operation : Operation}
    (spares : operation.Spares key store) :
    (operation.perform store).2.raw? key = store.raw? key := by
  rcases spares with keeps | ⟨stop, fails⟩
  · exact raw?_perform_of_not_writes keeps
  · rw [perform_of_error fails]

/-- A run that spares a key keeps the text under it. -/
theorem raw?_run {store : Store} {key : String} {operations : List Operation}
    (spared : Spared key store operations) :
    (store.run operations).raw? key = store.raw? key := by
  induction operations generalizing store with
  | nil => rfl
  | cons operation rest ih =>
      obtain ⟨spares, others⟩ := spared
      exact (ih others).trans (raw?_perform spares)

end Settings.Store

namespace Settings

/-- The canonical text of an element of a stored type is read back. -/
theorem Typed.Storable.coerce_render_toValue {α : Type} [Typed α] (storable : Storable α)
    (element : α)
    (numbers : .float .nan ∉ (toValue element).leaves ∧ .double .nan ∉ (toValue element).leaves)
    (durations : ∀ duration, .duration duration ∈ (toValue element).leaves → duration.ReadsBack) :
    coerce (tag α) (.text (toValue element).render) = .ok (toValue element) := by
  cases storable with
  | scalar scalar =>
      have typed := scalar.lawful.hasTag_toValue element
      have inside := typed.mem_leaves scalar.isList
      exact Value.coerce_render_leaf typed scalar.isList scalar.wellNamed inside numbers durations
  | list scalar =>
      apply Value.coerce_render_list scalar.isList
      intro value listed
      obtain ⟨item, -, rfl⟩ := List.mem_map.1 listed
      have typed := scalar.lawful.hasTag_toValue item
      have inside := Value.mem_leaves_list listed (typed.mem_leaves scalar.isList)
      exact Value.coerce_render_leaf typed scalar.isList scalar.wellNamed inside numbers durations

namespace Store

theorem getOr_of_get {α : Type} [Typed α] {store : Store} {key : String} {value : α}
    (reads : store.get α key = .ok (some value)) (default : α) :
    store.getOr key default = .ok value := by
  rw [getOr, reads]
  rfl

/-- A typed value that was set is read back after any run that spares its key, whatever the
other operations of the run are and however they end. -/
theorem get_run_set {α : Type} [Typed α] (storable : Typed.Storable α) (store : Store)
    (key : String) (value : α)
    (numbers : .float .nan ∉ (Typed.toValue value).leaves ∧
      .double .nan ∉ (Typed.toValue value).leaves)
    (durations : ∀ duration, .duration duration ∈ (Typed.toValue value).leaves →
      duration.ReadsBack)
    (operations : List Operation) (spared : Spared key (store.set key value) operations) :
    ((store.set key value).run operations).get α key = .ok (some value) ∧
      ∀ default, ((store.set key value).run operations).getOr key default = .ok value := by
  have stored : (store.set key value).raw? key = some (Typed.toValue value).render :=
    (raw?_setText ..).trans (if_pos rfl)
  have present := (raw?_run spared).trans stored
  have reads := get_of_coerce storable.lawful present
    (storable.coerce_render_toValue value numbers durations)
  exact ⟨reads, getOr_of_get reads⟩

/-- Two texts, of which one holds the delimiter of lists, after a read under another type, a
write of another key, a failed write of the key, settings of another store and an import. -/
theorem get_run_set_texts :
    ((Store.empty.set "names" ["a, b", ""]).run
        [.get Int32 "names", .setText "other" "1",
          .setVariant Bool ⟨⟨"Mode", []⟩, [true]⟩ "names" true,
          .override (Store.empty.setText "port" "80"), .reimport]).get (List String) "names" =
      .ok (some ["a, b", ""]) := by
  refine (get_run_set (.list .text) _ _ _ ?_ ?_ _ ?_).1
  · simp [Typed.toValue, Value.leaves, Value.leavesAll]
  · simp [Typed.toValue, Value.leaves, Value.leavesAll]
  · have others : ¬"other" = "names" := by decide
    have absent : ¬(Store.empty.setText "port" "80").contains "names" = true := by decide
    exact ⟨.inl id, .inl others, .inr ⟨_, rfl⟩, .inl absent, .inl id, trivial⟩

end Store

end Settings
