import Settings.Command.Basic
import Settings.Proofs.Splitting
import Settings.Proofs.Tables
import Settings.Proofs.Traversals

/-!
What the entries of a schema declare.

An entry declares a tag for the key in front of its first equals sign, trimmed.  A schema can
be read if every entry declares something, and then answers for each key with the tag of the
last entry that declares it.
-/

namespace Settings.Command

/-- The entry declares the tag for the key: white space around the key does not count, and what
stands behind the first equals sign is the text of the tag. -/
inductive Declares : String → String → Tag → Prop where
  | intro {front back : List Char} {tag : Tag} (first : '=' ∉ front)
      (reads : Literal.readTag back = .ok tag) :
      Declares (String.ofList (front ++ '=' :: back)) (String.ofList (Text.trim front)) tag

/-- The last of the entries that declares a tag for the key declares this one. -/
inductive Declared : List String → String → Tag → Prop where
  | last {entry key : String} {tag : Tag} {rest : List String} (declares : Declares entry key tag)
      (free : ∀ later ∈ rest, ∀ other, ¬Declares later key other) :
      Declared (entry :: rest) key tag
  | later {entry key : String} {tag : Tag} {rest : List String} (declared : Declared rest key tag) :
      Declared (entry :: rest) key tag

theorem declared_cons_iff {entry key : String} {tag : Tag} {rest : List String} :
    Declared (entry :: rest) key tag ↔
      Declared rest key tag ∨
        Declares entry key tag ∧ ∀ later ∈ rest, ∀ other, ¬Declares later key other := by
  constructor
  · intro declared
    cases declared with
    | last declares free => exact .inr ⟨declares, free⟩
    | later declared => exact .inl declared
  · rintro (declared | ⟨declares, free⟩)
    · exact .later declared
    · exact .last declares free

theorem readDeclaration_ofList {front : List Char} (first : '=' ∉ front) (back : List Char) :
    readDeclaration (String.ofList (front ++ '=' :: back)) =
      ((Literal.readTag back).mapError
        (.invalidSchemaTag (String.ofList (front ++ '=' :: back)))).map
        fun tag => (String.ofList (Text.trim front), tag) := by
  have key := Text.takeWhile_append_atDelimiter first (Text.atDelimiter_cons '=' back)
  simp only [readDeclaration, String.toList_ofList, key, List.drop_left]
  cases Literal.readTag back <;> rfl

theorem readDeclaration_of_notMem {entry : String} (form : '=' ∉ entry.toList) :
    readDeclaration entry = .error (.schemaForm entry) := by
  have key := Text.takeWhile_append_atDelimiter form (Text.atDelimiter_nil '=')
  rw [List.append_nil] at key
  simp only [readDeclaration, key, List.drop_length]

/-- An entry that can be read declares what it reads as. -/
theorem readDeclaration_eq_ok_iff {entry key : String} {tag : Tag} :
    readDeclaration entry = .ok (key, tag) ↔ Declares entry key tag := by
  constructor
  · intro reads
    by_cases form : '=' ∈ entry.toList
    · obtain ⟨front, back, whole, first⟩ := List.eq_append_cons_of_mem form
      obtain rfl := String.toList_inj.1 (whole.trans String.toList_ofList.symm)
      rw [readDeclaration_ofList first] at reads
      cases parses : Literal.readTag back with
      | ok found =>
          rw [parses] at reads
          cases reads
          exact .intro first parses
      | error error =>
          rw [parses] at reads
          cases reads
    · rw [readDeclaration_of_notMem form] at reads
      cases reads
  · rintro ⟨first, reads⟩
    rw [readDeclaration_ofList first, reads]
    rfl

/-- An entry declares one tag for one key. -/
theorem Declares.unique {entry key other : String} {tag tag' : Tag}
    (declares : Declares entry key tag) (declares' : Declares entry other tag') :
    key = other ∧ tag = tag' := by
  rw [← readDeclaration_eq_ok_iff] at declares declares'
  rw [declares] at declares'
  cases declares'
  exact ⟨rfl, rfl⟩

/-- The key of a declaration can be told without reading the tag. -/
theorem Declares.key_eq {entry key : String} {tag : Tag} (declares : Declares entry key tag) :
    key = String.ofList (Text.trim (entry.toList.takeWhile fun c => decide (c ≠ '='))) := by
  obtain ⟨first, -⟩ := declares
  rw [String.toList_ofList, Text.takeWhile_append_atDelimiter first (Text.atDelimiter_cons '=' _)]

theorem exists_readSchema_eq_ok_iff {entries : List String} :
    (∃ schema, readSchema entries = .ok schema) ↔
      ∀ entry ∈ entries, ∃ key tag, Declares entry key tag := by
  have reads : (∃ schema, readSchema entries = .ok schema) ↔
      ∃ declarations, entries.mapM readDeclaration = .ok declarations := by
    rw [readSchema]
    cases entries.mapM readDeclaration with
    | ok declarations => exact ⟨fun _ => ⟨_, rfl⟩, fun _ => ⟨_, rfl⟩⟩
    | error error => simp
  rw [reads, exists_mapM_eq_ok_iff]
  simp only [Prod.exists, readDeclaration_eq_ok_iff]

/-- Declarations added to a table one after the other: the last one of a key counts. -/
theorem get?_foldl_insert_declarations {entries : List String} {declarations : List (String × Tag)}
    (each : List.Forall₂ (fun entry declaration => readDeclaration entry = .ok declaration)
      entries declarations) (table : Table Tag) (key : String) (tag : Tag) :
    (declarations.foldl (fun table entry => table.insert entry.1 entry.2) table).get? key =
        some tag ↔
      Declared entries key tag ∨
        (∀ entry ∈ entries, ∀ other, ¬Declares entry key other) ∧ table.get? key = some tag := by
  induction each generalizing table with
  | nil =>
      constructor
      · intro stored
        exact .inr ⟨by simp, stored⟩
      · rintro (declared | ⟨-, stored⟩)
        · cases declared
        · exact stored
  | @cons entry declaration entries declarations first others ih =>
      obtain ⟨name, declared⟩ := declaration
      have declares : ∀ key tag, Declares entry key tag ↔ name = key ∧ declared = tag := by
        intro key tag
        rw [← readDeclaration_eq_ok_iff, first, Except.ok.injEq, Prod.mk.injEq]
      rw [List.foldl_cons, ih, Table.get?_insert, declared_cons_iff, List.forall_mem_cons]
      by_cases same : key = name
      · subst same
        simp [declares, and_comm]
      · simp [declares, same, Ne.symm same]

/-- A schema answers for a key with the tag that the last entry for the key declares. -/
theorem get?_readSchema {entries : List String} {schema : Table Tag} {key : String} {tag : Tag}
    (reads : readSchema entries = .ok schema) :
    schema.get? key = some tag ↔ Declared entries key tag := by
  obtain ⟨declarations, each, same⟩ := exists_of_bind_eq_ok reads
  cases same
  rw [Table.ofList, get?_foldl_insert_declarations (mapM_eq_ok_iff.1 each)]
  simp

end Settings.Command
