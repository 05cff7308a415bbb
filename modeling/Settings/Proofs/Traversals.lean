import Mathlib.Data.List.Forall2

/-!
Computations that can fail, in sequence and along lists.

A traversal of a list gives the results in the order of the items, or fails as the first
item that fails.
-/

namespace Settings

/-- Items that are each read back from what is made of them are read back in their order. -/
theorem mapM_map_eq_pure {m : Type → Type} [Monad m] [LawfulMonad m] {α β : Type}
    {make : α → β} {read : β → m α} {items : List α}
    (each : ∀ item ∈ items, read (make item) = pure item) :
    (items.map make).mapM read = pure items := by
  induction items with
  | nil => rfl
  | cons item rest ih =>
      have first := each item (List.mem_cons_self ..)
      have others := ih fun item listed => each item (List.mem_cons_of_mem _ listed)
      rw [List.map_cons, List.mapM_cons, first, others, pure_bind, pure_bind]

section

variable {ε α β : Type}

theorem ok_bind (value : α) (next : α → Except ε β) : (.ok value >>= next) = next value :=
  rfl

theorem error_bind (error : ε) (next : α → Except ε β) : (.error error >>= next) = .error error :=
  rfl

/-- A sequence succeeds only if both of its parts do. -/
theorem exists_of_bind_eq_ok {first : Except ε α} {next : α → Except ε β} {result : β}
    (reads : (first >>= next) = .ok result) :
    ∃ value, first = .ok value ∧ next value = .ok result := by
  cases first with
  | ok value => exact ⟨value, rfl, reads⟩
  | error error => cases reads

theorem exists_of_map_eq_ok {first : Except ε α} {make : α → β} {result : β}
    (reads : first.map make = .ok result) : ∃ value, first = .ok value ∧ make value = result := by
  cases first with
  | ok value => exact ⟨value, rfl, Except.ok.inj reads⟩
  | error error => cases reads

theorem map_eq_ok_iff {first : Except ε α} {make : α → β} {result : β} :
    first.map make = .ok result ↔ ∃ value, first = .ok value ∧ make value = result := by
  refine ⟨exists_of_map_eq_ok, ?_⟩
  rintro ⟨value, rfl, rfl⟩
  rfl

theorem map_eq_error_iff {first : Except ε α} {make : α → β} {error : ε} :
    first.map make = .error error ↔ first = .error error := by
  cases first with
  | ok value => exact iff_of_false (by rintro ⟨⟩) (by rintro ⟨⟩)
  | error other =>
      constructor
      · rintro ⟨⟩
        rfl
      · rintro ⟨⟩
        rfl

variable {read : α → Except ε β} {items : List α}

/-- The error of a traversal is that of an item, so it can be mapped at each of them. -/
theorem mapM_mapError {ε' : Type} (change : ε → ε') :
    items.mapM (fun item => (read item).mapError change) = (items.mapM read).mapError change := by
  induction items with
  | nil => rfl
  | cons item rest ih =>
      rw [List.mapM_cons, List.mapM_cons, ih]
      cases read item with
      | error error => rfl
      | ok value => cases rest.mapM read <;> rfl

/-- A traversal succeeds with the results of the items in their order, and in no other way. -/
theorem mapM_eq_ok_iff {values : List β} :
    items.mapM read = .ok values ↔
      List.Forall₂ (fun item value => read item = .ok value) items values := by
  induction items generalizing values with
  | nil =>
      constructor
      · intro reads
        cases reads
        exact .nil
      · intro each
        cases each
        rfl
  | cons item rest ih =>
      rw [List.mapM_cons]
      constructor
      · intro reads
        obtain ⟨value, first, reads⟩ := exists_of_bind_eq_ok reads
        obtain ⟨others, behind, reads⟩ := exists_of_bind_eq_ok reads
        cases reads
        exact .cons first (ih.1 behind)
      · intro each
        cases each with
        | cons first behind =>
            rw [first, ok_bind, ih.2 behind]
            rfl

/-- A traversal of two lists in a row traverses one after the other. -/
theorem mapM_append_eq_ok_iff {others : List α} {values : List β} :
    (items ++ others).mapM read = .ok values ↔
      ∃ first second, items.mapM read = .ok first ∧ others.mapM read = .ok second ∧
        values = first ++ second := by
  rw [List.mapM_append]
  constructor
  · intro reads
    obtain ⟨first, readsFirst, reads⟩ := exists_of_bind_eq_ok reads
    obtain ⟨second, readsSecond, reads⟩ := exists_of_bind_eq_ok reads
    cases reads
    exact ⟨first, second, readsFirst, readsSecond, rfl⟩
  · rintro ⟨first, second, readsFirst, readsSecond, rfl⟩
    rw [readsFirst, readsSecond]
    rfl

theorem exists_of_forall₂_left {related : α → β → Prop} {values : List β}
    (each : List.Forall₂ related items values) {item : α} (listed : item ∈ items) :
    ∃ value ∈ values, related item value := by
  induction each with
  | nil => cases listed
  | @cons first value _ _ holds others ih =>
      rcases List.mem_cons.1 listed with rfl | later
      · exact ⟨value, List.mem_cons_self .., holds⟩
      · obtain ⟨found, inside, holds⟩ := ih later
        exact ⟨found, List.mem_cons_of_mem _ inside, holds⟩

theorem exists_of_forall₂_right {related : α → β → Prop} {values : List β}
    (each : List.Forall₂ related items values) {value : β} (listed : value ∈ values) :
    ∃ item ∈ items, related item value :=
  exists_of_forall₂_left each.flip listed

/-- Every result of a traversal is read from one of the items. -/
theorem exists_of_mem_mapM {values : List β} (reads : items.mapM read = .ok values) {value : β}
    (listed : value ∈ values) : ∃ item ∈ items, read item = .ok value :=
  exists_of_forall₂_right (mapM_eq_ok_iff.1 reads) listed

/-- The first item that fails decides how a traversal fails. -/
theorem mapM_eq_error {before : List α} {item : α} {error : ε} (after : List α)
    (sound : ∀ earlier ∈ before, ∃ value, read earlier = .ok value)
    (fails : read item = .error error) :
    (before ++ item :: after).mapM read = .error error := by
  induction before with
  | nil => rw [List.nil_append, List.mapM_cons, fails, error_bind]
  | cons first before ih =>
      obtain ⟨value, reads⟩ := sound first (List.mem_cons_self ..)
      have others := ih fun earlier listed => sound earlier (List.mem_cons_of_mem _ listed)
      rw [List.cons_append, List.mapM_cons, reads, ok_bind, others, error_bind]

/-- A traversal that fails has a first item that fails. -/
theorem exists_of_mapM_eq_error {error : ε} (fails : items.mapM read = .error error) :
    ∃ before item after, items = before ++ item :: after ∧
      (∀ earlier ∈ before, ∃ value, read earlier = .ok value) ∧ read item = .error error := by
  induction items with
  | nil => cases fails
  | cons first rest ih =>
      rw [List.mapM_cons] at fails
      cases result : read first with
      | error other =>
          rw [result] at fails
          cases fails
          exact ⟨[], first, rest, rfl, by simp, result⟩
      | ok value =>
          rw [result, ok_bind] at fails
          cases others : rest.mapM read with
          | ok values =>
              rw [others] at fails
              cases fails
          | error other =>
              rw [others] at fails
              cases fails
              obtain ⟨before, item, after, split, sound, itemFails⟩ := ih others
              refine ⟨first :: before, item, after, ?_, ?_, itemFails⟩
              · rw [split, List.cons_append]
              · intro earlier listed
                rcases List.mem_cons.1 listed with rfl | later
                · exact ⟨value, result⟩
                · exact sound earlier later

/-- Results that each tell what their item tells do so in the same order. -/
theorem map_eq_map_of_forall₂ {γ : Type} {make : α → γ} {back : β → γ} {values : List β}
    (each : List.Forall₂ (fun item value => back value = make item) items values) :
    values.map back = items.map make := by
  induction each with
  | nil => rfl
  | cons first _ ih => rw [List.map_cons, List.map_cons, first, ih]

/-- A traversal succeeds if every item does. -/
theorem exists_mapM_eq_ok_iff :
    (∃ values, items.mapM read = .ok values) ↔ ∀ item ∈ items, ∃ value, read item = .ok value := by
  simp only [mapM_eq_ok_iff]
  induction items with
  | nil => simp
  | cons item rest ih =>
      rw [List.forall_mem_cons, ← ih]
      constructor
      · rintro ⟨_, each⟩
        cases each with
        | cons first others => exact ⟨⟨_, first⟩, ⟨_, others⟩⟩
      · rintro ⟨⟨value, first⟩, ⟨values, others⟩⟩
        exact ⟨value :: values, .cons first others⟩

/-- Items that are read alike one by one are read alike along a list. -/
theorem mapM_congr {other : α → Except ε β} (each : ∀ item ∈ items, read item = other item) :
    items.mapM read = items.mapM other := by
  induction items with
  | nil => rfl
  | cons item rest ih =>
      have head := each item (List.mem_cons_self ..)
      have tail := ih fun later listed => each later (List.mem_cons_of_mem _ listed)
      rw [List.mapM_cons, List.mapM_cons, head, tail]

end

end Settings
