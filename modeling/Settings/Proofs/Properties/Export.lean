import Settings.Proofs.Properties.Escape
import Settings.Proofs.Tables
import Settings.Store.Basic

/-!
A store survives its export as properties.

Every written entry is one natural line, because escapes hold no line end, and one
logical line, because no written line ends in an odd number of backslashes, begins
with a blank or looks like a comment.  So the entries are read one by one, in the
order in which they were written.
-/

namespace Settings.Properties

/-! ### Natural lines -/

/-- A character that ends no line belongs to the first natural line. -/
theorem naturalLines_cons {c : Char} {rest line : List Char} {others : List (List Char)}
    (noFeed : c ≠ '\n') (noEnd : c = '\r' → rest.head? ≠ some '\n')
    (following : naturalLines rest = line :: others) :
    naturalLines (c :: rest) = (c :: line) :: others := by
  rw [naturalLines.eq_def]
  split
  · next empty => cases empty
  · next same => exact absurd (List.cons.inj same).1 noFeed
  · next same =>
      obtain ⟨rfl, rfl⟩ := List.cons.inj same
      exact absurd rfl (noEnd rfl)
  · next other more _ _ same =>
      obtain ⟨rfl, rfl⟩ := List.cons.inj same
      rw [following]

/-- A text without line ends in front of a line feed is a natural line. -/
theorem naturalLines_append {line : List Char}
    (noEnds : ∀ c ∈ line, c ≠ '\n' ∧ c ≠ '\r') (rest : List Char) :
    naturalLines (line ++ '\n' :: rest) = line :: naturalLines rest := by
  induction line with
  | nil => simp [naturalLines]
  | cons c line ih =>
      have head := noEnds c (List.mem_cons_self ..)
      have tail := ih (fun d member => noEnds d (List.mem_cons_of_mem _ member))
      exact naturalLines_cons head.1 (fun carriage => absurd carriage head.2) tail

theorem mem_escapeCharacter {guarded : Bool} {c d : Char}
    (member : d ∈ escapeCharacter guarded c) : d ≠ '\n' ∧ d ≠ '\r' := by
  obtain ⟨form, equal, written⟩ := exists_writtenAs guarded c
  rw [equal] at member
  cases written with
  | marked marks =>
      obtain ⟨-, -, noFeed, noReturn, -⟩ := marks
      rcases List.mem_cons.1 member with rfl | member
      · decide
      · obtain rfl := List.mem_singleton.1 member
        exact ⟨noFeed, noReturn⟩
  | plain _ noFeed noReturn =>
      obtain rfl := List.mem_singleton.1 member
      exact ⟨noFeed, noReturn⟩

theorem mem_escapeKey {text : List Char} {d : Char} (member : d ∈ escapeKey text) :
    d ≠ '\n' ∧ d ≠ '\r' := by
  obtain ⟨c, -, inside⟩ := List.mem_flatMap.1 member
  exact mem_escapeCharacter inside

theorem mem_escapeValue {text : List Char} {d : Char} (member : d ∈ escapeValue text) :
    d ≠ '\n' ∧ d ≠ '\r' := by
  cases text with
  | nil => cases member
  | cons c rest =>
      rcases List.mem_append.1 member with inside | inside
      · exact mem_escapeCharacter inside
      · obtain ⟨c', -, inside⟩ := List.mem_flatMap.1 inside
        exact mem_escapeCharacter inside

/-! ### Logical lines -/

theorem isContinued_append_singleton {c : Char} (noBackslash : c ≠ '\\') (text : List Char) :
    isContinued (text ++ [c]) = false := by
  simp [isContinued, noBackslash]

theorem isContinued_append_backslashes (text : List Char) :
    isContinued (text ++ ['\\', '\\']) = isContinued text := by
  have count : ∀ n : Nat, (n + 1 + 1) % 2 = n % 2 := by omega
  simp [isContinued, count]

/-- Written characters keep the number of backslashes at the end even. -/
theorem isContinued_append_escapeCharacter {text : List Char} (complete : isContinued text = false)
    (guarded : Bool) (c : Char) : isContinued (text ++ escapeCharacter guarded c) = false := by
  obtain ⟨form, equal, written⟩ := exists_writtenAs guarded c
  rw [equal]
  cases written with
  | @marked letter _ =>
      by_cases backslash : letter = '\\'
      · subst backslash
        rw [isContinued_append_backslashes]
        exact complete
      · have split : text ++ ['\\', letter] = (text ++ ['\\']) ++ [letter] := by simp
        rw [split]
        exact isContinued_append_singleton backslash _
  | plain noBackslash => exact isContinued_append_singleton noBackslash text

theorem isContinued_append_flatMap {text : List Char} (complete : isContinued text = false)
    (guarded : Bool) (written : List Char) :
    isContinued (text ++ written.flatMap (escapeCharacter guarded)) = false := by
  induction written generalizing text with
  | nil => simpa using complete
  | cons c written ih =>
      rw [List.flatMap_cons, ← List.append_assoc]
      exact ih (isContinued_append_escapeCharacter complete guarded c)

theorem isContinued_append_escapeValue {text : List Char} (complete : isContinued text = false)
    (value : List Char) : isContinued (text ++ escapeValue value) = false := by
  cases value with
  | nil => simpa [escapeValue] using complete
  | cons c rest =>
      rw [escapeValue, ← List.append_assoc]
      exact isContinued_append_flatMap (isContinued_append_escapeCharacter complete true c)
        false rest

/-- The line of an entry, without its end. -/
def entryLine (entry : String × String) : List Char :=
  escapeKey entry.1.toList ++ '=' :: escapeValue entry.2.toList

theorem writeEntry_eq_entryLine (entry : String × String) :
    writeEntry entry = entryLine entry ++ ['\n'] := by
  simp [writeEntry, entryLine]

theorem mem_entryLine {entry : String × String} {d : Char} (member : d ∈ entryLine entry) :
    d ≠ '\n' ∧ d ≠ '\r' := by
  rcases List.mem_append.1 member with inside | inside
  · exact mem_escapeKey inside
  rcases List.mem_cons.1 inside with rfl | inside
  · decide
  · exact mem_escapeValue inside

/-- The line of an entry begins with neither a blank nor the mark of a comment. -/
theorem head_entryLine (entry : String × String) :
    ∃ first rest, entryLine entry = first :: rest ∧ isBlank first = false ∧
      first ∉ ['#', '!'] := by
  unfold entryLine
  cases key : entry.1.toList with
  | nil => exact ⟨'=', _, rfl, by decide, by decide⟩
  | cons c more =>
      obtain ⟨first, rest, form, noBlank, noMark⟩ := head_escapeCharacter c
      refine ⟨first, rest ++ escapeKey more ++ '=' :: escapeValue entry.2.toList, ?_, noBlank, ?_⟩
      · have cons : escapeKey (c :: more) = escapeCharacter true c ++ escapeKey more := rfl
        rw [cons, form]
        simp
      · intro member
        exact noMark (List.mem_append_right ['=', ':'] member)

theorem isContinued_entryLine (entry : String × String) :
    isContinued (entryLine entry) = false := by
  have split : entryLine entry =
      ((escapeKey entry.1.toList ++ ['=']) ++ escapeValue entry.2.toList) := by
    simp [entryLine]
  rw [split]
  exact isContinued_append_escapeValue (isContinued_append_singleton (by decide) _) _

/-- The line of an entry is a logical line by itself. -/
theorem logicalLines_entryLine (number : Nat) (entry : String × String)
    (rest : List (List Char)) :
    logicalLines number none (entryLine entry :: rest) =
      ⟨number, entryLine entry⟩ :: logicalLines (number + 1) none rest := by
  obtain ⟨first, more, form, noBlank, noMark⟩ := head_entryLine entry
  have kept : skipBlanks (entryLine entry) = entryLine entry := by
    simp [form, skipBlanks, noBlank]
  have counts : isIgnored (entryLine entry) = false := by
    simpa [form, isIgnored] using noMark
  simp [logicalLines, kept, counts, isContinued_entryLine]

/-! ### Entries -/

theorem readEntry_entryLine (number : Nat) (entry : String × String) :
    readEntry ⟨number, entryLine entry⟩ = .ok entry := by
  simp only [readEntry, entryLine, splitKey_escapeKey_append, skipSeparator_escapeValue,
    unescape?_escapeKey, unescape?_escapeValue, String.ofList_toList]

/-- Written entries are read back in their order. -/
theorem mapM_readEntry_writeEntry (number : Nat) (entries : List (String × String)) :
    (logicalLines number none (naturalLines (entries.flatMap writeEntry))).mapM readEntry =
      .ok entries := by
  induction entries generalizing number with
  | nil => rfl
  | cons entry entries ih =>
      have lines : naturalLines ((entry :: entries).flatMap writeEntry) =
          entryLine entry :: naturalLines (entries.flatMap writeEntry) := by
        rw [List.flatMap_cons, writeEntry_eq_entryLine, List.append_assoc]
        exact naturalLines_append (fun c member => mem_entryLine member) _
      rw [lines, logicalLines_entryLine, List.mapM_cons, readEntry_entryLine, ih]
      rfl

/-- Reading undoes writing. -/
theorem read_write (properties : Table String) :
    read (write properties).toList = .ok properties := by
  rw [read, write, String.toList_ofList, mapM_readEntry_writeEntry]
  exact congrArg Except.ok (Table.ofList_entries properties)

end Settings.Properties

namespace Settings.Store

/-- Nothing is lost when a store is exported as a text of properties and imported again. -/
theorem import_export (store : Store) :
    (Properties.read (Properties.write store.toProperties).toList).map ofProperties =
      .ok store := by
  rw [Properties.read_write]
  rfl

end Settings.Store
