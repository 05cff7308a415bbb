import Mathlib.Data.List.Induction
import Settings.Table

/-!
Tables rebuilt from their entries.

Adding the entries of a table to another one, in order, answers every look-up from the
added table first (`Table.get?_override`).  A table is thus the table of its own
entries, which is what reading back a written table comes down to.
-/

namespace Settings

variable {α : Type}

namespace Entries

/-- A key below all others is not among them. -/
theorem find?_eq_none_of_lt {key : String} {entries : Entries α}
    (above : ∀ entry ∈ entries, key < entry.1) : find? key entries = none := by
  cases found : find? key entries with
  | none => rfl
  | some value =>
      have before : key < key := above (key, value) (mem_of_find? found)
      exact absurd before (String.lt_irrefl key)

/-- After all entries are added, their own list decides, and the table they were added to
answers for the other keys. -/
theorem Sorted.get?_foldl_insert {entries : Entries α} (sorted : entries.Sorted)
    (table : Table α) (key : String) :
    (entries.foldl (fun merged entry => merged.insert entry.1 entry.2) table).get? key =
      (find? key entries).or (table.get? key) := by
  induction entries generalizing table with
  | nil => rfl
  | cons head rest ih =>
      obtain ⟨name, value⟩ := head
      obtain ⟨first, tail⟩ := List.pairwise_cons.1 sorted
      rw [List.foldl_cons, ih tail, Table.get?_insert]
      by_cases same : key = name
      · subst same
        rw [find?_eq_none_of_lt first]
        simp [find?]
      · simp [find?, same]

end Entries

namespace Table

theorem get?_override (table other : Table α) (key : String) :
    (table.override other).get? key = (other.get? key).or (table.get? key) :=
  other.sorted.get?_foldl_insert table key

/-- The entries of a table make up the table. -/
theorem ofList_entries (table : Table α) : ofList table.entries = table := by
  apply ext_get?
  intro key
  have rebuilt := get?_override empty table key
  rw [get?_empty, Option.or_none] at rebuilt
  exact rebuilt

/-- Entries that are in order are listed as they are. -/
theorem entries_ofList {entries : Entries α} (sorted : entries.Sorted) :
    (ofList entries).entries = entries :=
  congrArg Table.entries (ofList_entries ⟨entries, sorted⟩)

/-- Entries added to a table answer for their keys as they would by themselves, and the table
answers for the other keys. -/
theorem get?_foldl_insert (table : Table α) (entries : List (String × α)) (key : String) :
    (entries.foldl (fun merged entry => merged.insert entry.1 entry.2) table).get? key =
      ((ofList entries).get? key).or (table.get? key) := by
  induction entries using List.reverseRecOn with
  | nil => rfl
  | append_singleton entries entry ih =>
      rw [ofList, List.foldl_append, List.foldl_append, List.foldl_cons, List.foldl_cons,
        List.foldl_nil, List.foldl_nil, get?_insert, get?_insert, ih]
      split
      · rfl
      · rfl

/-- Entries behind others override them. -/
theorem ofList_append (entries others : List (String × α)) :
    ofList (entries ++ others) = (ofList entries).override (ofList others) := by
  apply ext_get?
  intro key
  have later := get?_foldl_insert (ofList entries) others key
  rw [get?_override, ← later, ofList, ofList, List.foldl_append]

/-- Of entries with the same key the last one counts. -/
theorem get?_ofList_eq_some_iff {entries : List (String × α)} {key : String} {value : α} :
    (ofList entries).get? key = some value ↔
      ∃ before after, entries = before ++ (key, value) :: after ∧
        ∀ later ∈ after, later.1 ≠ key := by
  induction entries using List.reverseRecOn with
  | nil => simp [ofList]
  | append_singleton entries entry ih =>
      have added : ofList (entries ++ [entry]) = (ofList entries).insert entry.1 entry.2 := by
        simp [ofList]
      rw [added, get?_insert]
      constructor
      · intro found
        by_cases same : key = entry.1
        · rw [if_pos same] at found
          cases found
          exact ⟨entries, [], by rw [same], by simp⟩
        · rw [if_neg same] at found
          obtain ⟨before, after, split, others⟩ := ih.1 found
          refine ⟨before, after ++ [entry], by simp [split], ?_⟩
          exact List.forall_mem_append.2 ⟨others, by simpa using Ne.symm same⟩
      · intro listed
        obtain ⟨before, after, split, others⟩ := listed
        cases after using List.reverseRecOn with
        | nil =>
            obtain ⟨-, final⟩ := List.append_inj' split rfl
            cases List.singleton_inj.1 final
            exact if_pos rfl
        | append_singleton after last _ =>
            rw [← List.cons_append, ← List.append_assoc] at split
            obtain ⟨front, final⟩ := List.append_inj' split rfl
            cases List.singleton_inj.1 final
            obtain ⟨others, different⟩ := List.forall_mem_append.1 others
            have different : entry.1 ≠ key := different entry (List.mem_singleton_self _)
            rw [if_neg (Ne.symm different)]
            exact ih.2 ⟨before, after, front, others⟩

theorem get?_ofList_eq_none_iff {entries : List (String × α)} {key : String} :
    (ofList entries).get? key = none ↔ ∀ value, (key, value) ∉ entries := by
  induction entries using List.reverseRecOn with
  | nil => simp [ofList]
  | append_singleton entries entry ih =>
      obtain ⟨name, last⟩ := entry
      have added : ofList (entries ++ [(name, last)]) = (ofList entries).insert name last := by
        simp [ofList]
      rw [added, get?_insert]
      by_cases same : key = name
      · rw [if_pos same, same]
        exact iff_of_false (by rintro ⟨⟩) fun absent => absent last (by simp)
      · rw [if_neg same, ih]
        simp [same]

/-- Where no key is listed with two values, the table holds just what is listed. -/
theorem get?_ofList_of_unique {entries : List (String × α)}
    (unique : ∀ key value other, (key, value) ∈ entries → (key, other) ∈ entries → value = other)
    {key : String} {value : α} :
    (ofList entries).get? key = some value ↔ (key, value) ∈ entries := by
  have listed : ∀ other, (ofList entries).get? key = some other → (key, other) ∈ entries := by
    intro other found
    obtain ⟨before, after, split, -⟩ := get?_ofList_eq_some_iff.1 found
    rw [split]
    exact List.mem_append_right _ (List.mem_cons_self ..)
  refine ⟨listed value, fun member => ?_⟩
  cases found : (ofList entries).get? key with
  | none => exact absurd member (get?_ofList_eq_none_iff.1 found value)
  | some other => rw [unique key value other member (listed other found)]

/-- A table is listed by its keys, each with what is under it. -/
theorem entries_eq_map_keys (table : Table α) (default : α) :
    table.entries = table.keys.map fun key => (key, (table.get? key).getD default) := by
  rw [keys, List.map_map]
  symm
  refine (List.map_congr_left fun entry listed => ?_).trans (List.map_id _)
  obtain ⟨key, value⟩ := entry
  have found : table.get? key = some value := table.sorted.find?_eq_some_iff.2 listed
  simp [found]

theorem mem_keys_iff {table : Table α} {key : String} :
    key ∈ table.keys ↔ ∃ value, table.get? key = some value := by
  constructor
  · intro listed
    obtain ⟨⟨name, value⟩, inside, rfl⟩ := List.mem_map.1 listed
    exact ⟨value, table.sorted.find?_eq_some_iff.2 inside⟩
  · rintro ⟨value, found⟩
    exact List.mem_map.2 ⟨(key, value), Entries.mem_of_find? found, rfl⟩

end Table

end Settings
