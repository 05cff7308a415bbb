/-!
Finite tables from text keys to values.

A table is a list of entries whose keys strictly increase in the order of their
code points, so every finite map has exactly one table (`Table.ext_get?`).  The
list operations come first, because trees of settings nest such lists; `Table`
bundles a list with the proof that it is in order.
-/

namespace Settings

/-- Entries with a text key, in some order. -/
abbrev Entries (α : Type) := List (String × α)

namespace Entries

variable {α : Type}

/-- Keys strictly increase, so no key occurs twice. -/
def Sorted (entries : Entries α) : Prop :=
  entries.Pairwise (fun left right => left.1 < right.1)

instance (entries : Entries α) : Decidable entries.Sorted :=
  inferInstanceAs (Decidable (entries.Pairwise fun left right => left.1 < right.1))

/-- The value of the first entry with this key. -/
def find? (key : String) : Entries α → Option α
  | [] => none
  | (name, value) :: rest => if key = name then some value else find? key rest

/-- Insertion in key order; an entry with the same key is replaced. -/
def put (key : String) (value : α) : Entries α → Entries α
  | [] => [(key, value)]
  | (name, old) :: rest =>
    if key = name then (key, value) :: rest
    else if key < name then (key, value) :: (name, old) :: rest
    else (name, old) :: put key value rest

/-- The entries with another key. -/
def without (key : String) (entries : Entries α) : Entries α :=
  entries.filter fun entry => entry.1 ≠ key

@[simp] theorem find?_nil (key : String) : find? key ([] : Entries α) = none := rfl

theorem find?_put (key other : String) (value : α) (entries : Entries α) :
    find? other (put key value entries) =
      if other = key then some value else find? other entries := by
  induction entries with
  | nil => simp [put, find?]
  | cons entry rest ih =>
    obtain ⟨name, old⟩ := entry
    by_cases same : key = name
    · subst same
      by_cases h : other = key <;> simp [put, find?, h]
    · by_cases before : key < name
      · by_cases h : other = key <;> simp [put, find?, same, before, h]
      · by_cases h : other = key
        · subst h
          simp [put, find?, same, before, ih]
        · simp [put, find?, same, before, ih, h]

theorem find?_without (key other : String) (entries : Entries α) :
    find? other (entries.without key) = if other = key then none else find? other entries := by
  induction entries with
  | nil => simp [without, find?]
  | cons entry rest ih =>
    obtain ⟨name, old⟩ := entry
    unfold without at ih ⊢
    by_cases same : name = key
    · subst same
      by_cases h : other = name <;> simp_all [find?]
    · by_cases h : other = name <;> simp_all [find?]

theorem mem_put {key : String} {value : α} {entries : Entries α} {entry : String × α}
    (h : entry ∈ put key value entries) : entry = (key, value) ∨ entry ∈ entries := by
  induction entries with
  | nil => simpa [put] using h
  | cons head rest ih =>
    obtain ⟨name, old⟩ := head
    simp only [put] at h
    split at h
    · rcases List.mem_cons.1 h with h | h
      · exact .inl h
      · exact .inr (List.mem_cons_of_mem _ h)
    · split at h
      · rcases List.mem_cons.1 h with h | h
        · exact .inl h
        · exact .inr h
      · rcases List.mem_cons.1 h with h | h
        · exact .inr (List.mem_cons.2 (.inl h))
        · exact (ih h).imp id (List.mem_cons_of_mem _)

private theorem lt_of_not_lt {left right : String} (different : left ≠ right)
    (h : ¬left < right) : right < left := by
  rcases String.le_total left right with le | le
  · exact absurd (String.le_antisymm le (String.not_lt.1 h)) different
  · exact Classical.byContradiction fun h' =>
      different (String.le_antisymm (String.not_lt.1 h') le)

theorem Sorted.put {entries : Entries α} (sorted : entries.Sorted) (key : String) (value : α) :
    (put key value entries).Sorted := by
  induction entries with
  | nil => simp [Entries.put, Sorted]
  | cons head rest ih =>
    obtain ⟨name, old⟩ := head
    obtain ⟨first, tail⟩ := List.pairwise_cons.1 sorted
    simp only [Entries.put]
    split
    · next same => subst same; exact List.pairwise_cons.2 ⟨first, tail⟩
    · next different =>
      split
      · next before =>
        refine List.pairwise_cons.2 ⟨fun entry member => ?_, sorted⟩
        rcases List.mem_cons.1 member with h | h
        · subst h; exact before
        · exact String.lt_trans before (first entry h)
      · next after =>
        refine List.pairwise_cons.2 ⟨fun entry member => ?_, ih tail⟩
        rcases mem_put member with h | h
        · subst h; exact lt_of_not_lt different after
        · exact first entry h

theorem Sorted.without {entries : Entries α} (sorted : entries.Sorted) (key : String) :
    (entries.without key).Sorted :=
  List.Pairwise.filter _ sorted

theorem mem_of_find? {key : String} {value : α} {entries : Entries α}
    (h : find? key entries = some value) : (key, value) ∈ entries := by
  induction entries with
  | nil => simp at h
  | cons entry rest ih =>
    obtain ⟨name, old⟩ := entry
    by_cases same : key = name <;> simp_all [find?]

theorem Sorted.find?_eq_some_iff {entries : Entries α} (sorted : entries.Sorted) {key : String}
    {value : α} : find? key entries = some value ↔ (key, value) ∈ entries := by
  refine ⟨mem_of_find?, fun member => ?_⟩
  induction entries with
  | nil => simp at member
  | cons entry rest ih =>
    obtain ⟨name, old⟩ := entry
    obtain ⟨first, tail⟩ := List.pairwise_cons.1 sorted
    rcases List.mem_cons.1 member with h | h
    · obtain ⟨rfl, rfl⟩ := Prod.mk.inj h
      simp [find?]
    · have before : name < key := first _ h
      have different : key ≠ name := fun same => String.lt_irrefl name (same ▸ before)
      simp [find?, different, ih tail h]

/-- Two lists in key order that answer every look-up alike are the same list. -/
theorem Sorted.ext {left right : Entries α} (hl : left.Sorted) (hr : right.Sorted)
    (same : ∀ key, find? key left = find? key right) : left = right := by
  have members : ∀ entry, entry ∈ left ↔ entry ∈ right := fun (key, value) => by
    rw [← hl.find?_eq_some_iff, ← hr.find?_eq_some_iff, same]
  induction left generalizing right with
  | nil =>
    cases right with
    | nil => rfl
    | cons head tail => exact absurd ((members head).2 (List.mem_cons_self ..)) (by simp)
  | cons head tail ih =>
    cases right with
    | nil => exact absurd ((members head).1 (List.mem_cons_self ..)) (by simp)
    | cons other rest =>
      obtain ⟨headFirst, tailSorted⟩ := List.pairwise_cons.1 hl
      obtain ⟨otherFirst, restSorted⟩ := List.pairwise_cons.1 hr
      have heads : head = other := by
        rcases List.mem_cons.1 ((members head).1 (List.mem_cons_self ..)) with h | h
        · exact h
        rcases List.mem_cons.1 ((members other).2 (List.mem_cons_self ..)) with h' | h'
        · exact h'.symm
        · exact absurd (String.lt_trans (headFirst _ h') (otherFirst _ h)) (String.lt_irrefl _)
      subst heads
      have rests : ∀ entry, entry ∈ tail ↔ entry ∈ rest := fun entry => by
        constructor
        · intro h
          rcases List.mem_cons.1 ((members entry).1 (List.mem_cons_of_mem _ h)) with h' | h'
          · exact absurd (h' ▸ headFirst _ h) (String.lt_irrefl _)
          · exact h'
        · intro h
          rcases List.mem_cons.1 ((members entry).2 (List.mem_cons_of_mem _ h)) with h' | h'
          · exact absurd (h' ▸ otherFirst _ h) (String.lt_irrefl _)
          · exact h'
      have lookups : ∀ key, find? key tail = find? key rest := fun key => by
        apply Option.ext
        intro value
        rw [Sorted.find?_eq_some_iff tailSorted, Sorted.find?_eq_some_iff restSorted, rests]
      rw [ih tailSorted restSorted lookups rests]

end Entries

/-- A finite map from text keys, kept in key order. -/
structure Table (α : Type) where
  entries : Entries α
  sorted : entries.Sorted

namespace Table

variable {α : Type}

instance [DecidableEq α] : DecidableEq (Table α) := fun left right =>
  if h : left.entries = right.entries then
    .isTrue (by cases left; cases right; simp_all)
  else .isFalse fun same => h (by rw [same])

/-- The table without entries. -/
def empty : Table α := ⟨[], List.Pairwise.nil⟩

instance : Inhabited (Table α) := ⟨empty⟩

/-- The value stored under a key. -/
def get? (table : Table α) (key : String) : Option α := table.entries.find? key

/-- The table with one entry added or replaced. -/
def insert (table : Table α) (key : String) (value : α) : Table α :=
  ⟨table.entries.put key value, table.sorted.put key value⟩

/-- The table without the entry of a key. -/
def erase (table : Table α) (key : String) : Table α :=
  ⟨table.entries.without key, table.sorted.without key⟩

/-- The table of a list of entries; of entries with the same key the last one counts. -/
def ofList (entries : List (String × α)) : Table α :=
  entries.foldl (fun table entry => table.insert entry.1 entry.2) empty

/-- The left table overridden by the entries of the right one. -/
def override (table other : Table α) : Table α :=
  other.entries.foldl (fun merged entry => merged.insert entry.1 entry.2) table

/-- The keys in increasing order. -/
def keys (table : Table α) : List String := table.entries.map Prod.fst

/-- The key is present. -/
def contains (table : Table α) (key : String) : Bool := (table.get? key).isSome

/-- The table with one entry added unless the key is present. -/
def insertNew (table : Table α) (key : String) (value : α) : Table α :=
  if table.contains key then table else table.insert key value

/-- The number of entries. -/
def size (table : Table α) : Nat := table.entries.length

/-- The table with each value replaced, keys unchanged. -/
def map {β : Type} (f : String → α → β) (table : Table α) : Table β :=
  ⟨table.entries.map fun entry => (entry.1, f entry.1 entry.2),
    List.pairwise_map.2 (table.sorted.imp id)⟩

@[simp] theorem get?_empty (key : String) : (empty : Table α).get? key = none := rfl

theorem get?_insert (table : Table α) (key other : String) (value : α) :
    (table.insert key value).get? other = if other = key then some value else table.get? other :=
  Entries.find?_put ..

theorem get?_insertNew (table : Table α) (key other : String) (value : α) :
    (table.insertNew key value).get? other =
      (table.get? other).or (if other = key then some value else none) := by
  unfold insertNew contains
  cases present : table.get? key with
  | some old =>
    rw [if_pos (by rfl)]
    by_cases same : other = key
    · rw [same, present, Option.some_or]
    · rw [if_neg same, Option.or_none]
  | none =>
    rw [if_neg (by simp), get?_insert]
    by_cases same : other = key
    · rw [if_pos same, if_pos same, same, present, Option.none_or]
    · rw [if_neg same, if_neg same, Option.or_none]

theorem get?_erase (table : Table α) (key other : String) :
    (table.erase key).get? other = if other = key then none else table.get? other :=
  Entries.find?_without ..

/-- Tables that answer every look-up alike are equal. -/
theorem ext_get? {left right : Table α} (same : ∀ key, left.get? key = right.get? key) :
    left = right := by
  cases left
  cases right
  simp only [mk.injEq]
  exact Entries.Sorted.ext ‹_› ‹_› same

end Table

end Settings
