import Settings.Proofs.Properties.Concatenation

/-!
Layouts of properties.

The same entries can be laid out in many ways: with blanks in front of a key and around its
separator, with an equals sign, a colon or only blanks between key and value, with comments and
blank lines between the entries, and with either end of a line.  None of it is read.  Only the
escapes of keys and values have to stand, for they are what keeps a key together, guards the
start of a value and keeps a line from being continued.
-/

namespace Settings.Properties

/-! ### Natural lines and their ends -/

/-- The ends of a natural line. -/
inductive LineEnd : List Char → Prop where
  | feed : LineEnd ['\n']
  | carriage : LineEnd ['\r', '\n']

/-- The text behind a natural line: nothing, if the line is not empty, or the end of the line and
a text with natural lines of its own.  A carriage return before the line feed belongs to the
end and not to the line. -/
inductive EndsLine (line : List Char) : List Char → List (List Char) → Prop where
  | last (some : line ≠ []) : EndsLine line [] []
  | feed (noReturn : line.getLast? ≠ some '\r') (rest : List Char) :
      EndsLine line ('\n' :: rest) (naturalLines rest)
  | carriage (rest : List Char) : EndsLine line ('\r' :: '\n' :: rest) (naturalLines rest)

/-- A line without line feeds stands in front of a text that begins with an empty line, unless
its last character becomes part of the end of that line. -/
theorem naturalLines_append_of_nil_cons {line ends : List Char} {others : List (List Char)}
    (noFeed : '\n' ∉ line) (own : naturalLines ends = [] :: others)
    (apart : line.getLast? = some '\r' → ends.head? ≠ some '\n') :
    naturalLines (line ++ ends) = line :: others := by
  induction line with
  | nil => exact own
  | cons c line ih =>
      have other : c ≠ '\n' := Ne.symm (List.ne_of_not_mem_cons noFeed)
      have noFeed : '\n' ∉ line := List.not_mem_of_not_mem_cons noFeed
      refine naturalLines_cons other ?_ (ih noFeed ?_)
      · intro carriage
        cases line with
        | nil => exact apart (congrArg some carriage)
        | cons d line =>
            intro next
            exact noFeed (List.mem_cons.2 (.inl (Option.some.inj next).symm))
      · intro last
        cases line with
        | nil => cases last
        | cons d line => exact apart (List.getLast?_cons_cons.trans last)

/-- A text without line feeds is a natural line, if it is not empty. -/
theorem naturalLines_of_notMem {line : List Char} (noFeed : '\n' ∉ line) (some : line ≠ []) :
    naturalLines line = [line] := by
  induction line with
  | nil => exact absurd rfl some
  | cons c line ih =>
      have other : c ≠ '\n' := Ne.symm (List.ne_of_not_mem_cons noFeed)
      have noFeed : '\n' ∉ line := List.not_mem_of_not_mem_cons noFeed
      cases line with
      | nil => simp [naturalLines]
      | cons d line =>
          refine naturalLines_cons other ?_ (ih noFeed (List.cons_ne_nil d line))
          intro _ next
          exact noFeed (List.mem_cons.2 (.inl (Option.some.inj next).symm))

/-- The natural lines of a text are its first line and those behind it. -/
theorem EndsLine.naturalLines_append {line back : List Char} {others : List (List Char)}
    (ends : EndsLine line back others) (noFeed : '\n' ∉ line) :
    naturalLines (line ++ back) = line :: others := by
  cases ends with
  | last some =>
      rw [List.append_nil]
      exact naturalLines_of_notMem noFeed some
  | feed noReturn rest =>
      exact naturalLines_append_of_nil_cons noFeed rfl fun last => absurd last noReturn
  | carriage rest =>
      exact naturalLines_append_of_nil_cons noFeed rfl fun _ next => by cases next

theorem LineEnd.endsLine {line ending : List Char} (ends : LineEnd ending)
    (noReturn : line.getLast? ≠ some '\r') (rest : List Char) :
    EndsLine line (ending ++ rest) (naturalLines rest) := by
  cases ends with
  | feed => exact .feed noReturn rest
  | carriage => exact .carriage rest

/-! ### Blanks -/

/-- The text consists of blanks. -/
def Blanks (text : List Char) : Prop := ∀ c ∈ text, isBlank c = true

instance (text : List Char) : Decidable (Blanks text) :=
  decidable_of_iff (text.all isBlank = true) List.all_eq_true

theorem Blanks.append {left right : List Char} (first : Blanks left) (second : Blanks right) :
    Blanks (left ++ right) :=
  List.forall_mem_append.2 ⟨first, second⟩

/-- A blank is neither part of an end of a line nor a backslash nor a mark. -/
theorem ne_of_isBlank {c : Char} (blank : isBlank c = true) :
    c ≠ '\n' ∧ c ≠ '\r' ∧ c ≠ '\\' ∧ c ≠ '=' ∧ c ≠ ':' := by
  refine ⟨?_, ?_, ?_, ?_, ?_⟩ <;>
    · intro same
      rw [same] at blank
      cases blank

theorem skipBlanks_append {blanks : List Char} (all : Blanks blanks) (text : List Char) :
    skipBlanks (blanks ++ text) = skipBlanks text :=
  List.dropWhile_append_of_pos all

theorem skipBlanks_of_blanks {blanks : List Char} (all : Blanks blanks) :
    skipBlanks blanks = [] := by
  have nothing := skipBlanks_append all []
  rwa [List.append_nil] at nothing

theorem skipBlanks_cons {c : Char} (noBlank : isBlank c = false) (rest : List Char) :
    skipBlanks (c :: rest) = c :: rest := by
  simp [skipBlanks, noBlank]

/-! ### Lines that are not read -/

/-- A blank line, or a comment, whatever its text is. -/
inductive Idle : List Char → Prop where
  | blank {blanks : List Char} (all : Blanks blanks) : Idle blanks
  | comment {lead text : List Char} {mark : Char} (all : Blanks lead)
      (marks : mark = '#' ∨ mark = '!') (single : '\n' ∉ text) : Idle (lead ++ mark :: text)

theorem Idle.noFeed {line : List Char} (idle : Idle line) : '\n' ∉ line := by
  cases idle with
  | blank all => exact fun member => (ne_of_isBlank (all _ member)).1 rfl
  | comment all marks single =>
      intro member
      rcases List.mem_append.1 member with inside | inside
      · exact (ne_of_isBlank (all _ inside)).1 rfl
      · rcases List.mem_cons.1 inside with same | inside
        · rcases marks with rfl | rfl <;> cases same
        · exact single inside

theorem Idle.isIgnored_skipBlanks {line : List Char} (idle : Idle line) :
    isIgnored (skipBlanks line) = true := by
  cases idle with
  | blank all =>
      rw [skipBlanks_of_blanks all]
      rfl
  | comment all marks single =>
      rw [skipBlanks_append all]
      rcases marks with rfl | rfl <;> rfl

/-- What begins like a comment or is blank does so without the text behind it. -/
theorem isIgnored_skipBlanks_of_append {line behind : List Char}
    (ignored : isIgnored (skipBlanks (line ++ behind)) = true) :
    isIgnored (skipBlanks line) = true := by
  induction line with
  | nil => rfl
  | cons c line ih =>
      cases blank : isBlank c with
      | true =>
          have skipped : ∀ rest, skipBlanks (c :: rest) = skipBlanks rest := fun rest => by
            simp [skipBlanks, blank]
          rw [List.cons_append, skipped] at ignored
          rw [skipped]
          exact ih ignored
      | false =>
          rw [List.cons_append, skipBlanks_cons blank] at ignored
          rw [skipBlanks_cons blank]
          exact ignored

/-- Behind a line that is not read stand the logical lines of the rest.  A carriage return at the
end of a comment may be taken for a part of the end of its line. -/
theorem Idle.logicalLines_eq {line ending : List Char} (idle : Idle line) (ends : LineEnd ending)
    (number : Nat) (rest : List Char) :
    logicalLines number none (naturalLines (line ++ (ending ++ rest))) =
      logicalLines (number + 1) none (naturalLines rest) := by
  obtain ⟨natural, ignored, lines⟩ : ∃ natural, isIgnored (skipBlanks natural) = true ∧
      naturalLines (line ++ (ending ++ rest)) = natural :: naturalLines rest := by
    by_cases last : line.getLast? = some '\r'
    · cases ends with
      | carriage =>
          have behind : EndsLine line ('\r' :: '\n' :: rest) (naturalLines rest) := .carriage rest
          exact ⟨line, idle.isIgnored_skipBlanks, behind.naturalLines_append idle.noFeed⟩
      | feed =>
          obtain ⟨front, rfl⟩ := List.getLast?_eq_some_iff.1 last
          have noFeed : '\n' ∉ front := fun member => idle.noFeed (List.mem_append_left _ member)
          refine ⟨front, isIgnored_skipBlanks_of_append idle.isIgnored_skipBlanks, ?_⟩
          rw [List.append_assoc]
          exact (EndsLine.carriage rest).naturalLines_append noFeed
    · have behind := ends.endsLine last rest
      exact ⟨line, idle.isIgnored_skipBlanks, behind.naturalLines_append idle.noFeed⟩
  rw [lines, logicalLines_of_ignored ignored]

/-! ### Lines of entries -/

/-- What stands between a key and its value: an equals sign or a colon with blanks around it, or
behind a key that is not empty blanks alone. -/
inductive Gap (key : List Char) : List Char → Prop where
  | sign {before after : List Char} {sign : Char} (first : Blanks before)
      (signs : sign = '=' ∨ sign = ':') (second : Blanks after) :
      Gap key (before ++ sign :: after)
  | blanks {gap : List Char} (named : key ≠ []) (some : gap ≠ []) (all : Blanks gap) : Gap key gap

/-- A line of an entry: its escaped key behind blanks, a gap, and its escaped value. -/
inductive LaidOut (entry : String × String) : List Char → Prop where
  | line {lead gap : List Char} (blanks : Blanks lead) (apart : Gap entry.1.toList gap) :
      LaidOut entry (lead ++ (escapeKey entry.1.toList ++ (gap ++ escapeValue entry.2.toList)))

/-- An escaped value begins with neither a blank nor a mark. -/
theorem head_escapeValue (value : List Char) :
    escapeValue value = [] ∨ ∃ first rest, escapeValue value = first :: rest ∧
      isBlank first = false ∧ first ∉ ['=', ':', '#', '!'] := by
  cases value with
  | nil => exact .inl rfl
  | cons c value =>
      obtain ⟨first, rest, form, noBlank, noMark⟩ := head_escapeCharacter c
      refine .inr ⟨first, rest ++ value.flatMap (escapeCharacter false), ?_, noBlank, noMark⟩
      rw [escapeValue, form, List.cons_append]

theorem skipBlanks_escapeValue (value : List Char) :
    skipBlanks (escapeValue value) = escapeValue value := by
  rcases head_escapeValue value with empty | ⟨first, rest, form, noBlank, -⟩
  · rw [empty]
    rfl
  · rw [form]
    exact skipBlanks_cons noBlank rest

/-- Nothing of an escaped value is taken for a part of the gap before it. -/
theorem Gap.skipSeparator_eq {key gap : List Char} (apart : Gap key gap) (value : List Char) :
    skipSeparator (gap ++ escapeValue value) = escapeValue value := by
  cases apart with
  | @sign before after sign first signs second =>
      have noBlank : isBlank sign = false := by
        rcases signs with rfl | rfl <;> rfl
      rw [skipSeparator, List.append_assoc, skipBlanks_append first, List.cons_append,
        skipBlanks_cons noBlank]
      have isSign : (decide (sign = '=') || decide (sign = ':')) = true := by
        rcases signs with rfl | rfl <;> rfl
      refine (if_pos isSign).trans ?_
      rw [skipBlanks_append second, skipBlanks_escapeValue]
  | blanks _ _ all =>
      rw [skipSeparator, skipBlanks_append all, skipBlanks_escapeValue]
      rcases head_escapeValue value with empty | ⟨first, rest, form, -, noMark⟩
      · rw [empty]
      · rw [form]
        refine if_neg fun isSign => ?_
        rcases Bool.or_eq_true_iff.1 isSign with same | same
        · cases of_decide_eq_true same
          exact absurd noMark (by decide)
        · cases of_decide_eq_true same
          exact absurd noMark (by decide)

/-- A key ends at a blank or a separator. -/
theorem splitKey_of_ends {c : Char} (ends : isBlank c = true ∨ c = '=' ∨ c = ':')
    (rest : List Char) : splitKey (c :: rest) = ([], c :: rest) := by
  have noBackslash : c ≠ '\\' := by
    rcases ends with blank | rfl | rfl
    · exact (ne_of_isBlank blank).2.2.1
    · decide
    · decide
  rw [splitKey.eq_def]
  simp only [if_neg noBackslash]
  refine if_pos ?_
  rcases ends with blank | rfl | rfl
  · rw [blank, Bool.or_true]
  · rfl
  · rfl

theorem splitKey_escapeKey {rest : List Char} (ends : splitKey rest = ([], rest))
    (key : List Char) : splitKey (escapeKey key ++ rest) = (escapeKey key, rest) := by
  induction key with
  | nil => exact ends
  | cons c key ih =>
      have form : escapeKey (c :: key) = escapeCharacter true c ++ escapeKey key := rfl
      rw [form, List.append_assoc, splitKey_escapeCharacter, ih]

/-- A gap begins with a blank or a separator, and ends with no backslash. -/
theorem Gap.ends {key gap : List Char} (apart : Gap key gap) :
    (∃ c rest, gap = c :: rest ∧ (isBlank c = true ∨ c = '=' ∨ c = ':')) ∧
      ∃ front c, gap = front ++ [c] ∧ c ≠ '\\' := by
  cases apart with
  | @sign before after sign first signs second =>
      constructor
      · cases before with
        | nil => exact ⟨sign, after, rfl, .inr signs⟩
        | cons c before =>
            exact ⟨c, before ++ sign :: after, rfl, .inl (first c (List.mem_cons_self ..))⟩
      · cases after using List.reverseRecOn with
        | nil =>
            refine ⟨before, sign, rfl, ?_⟩
            rcases signs with rfl | rfl <;> decide
        | append_singleton after c _ =>
            refine ⟨before ++ sign :: after, c, by simp, ?_⟩
            exact (ne_of_isBlank (second c (by simp))).2.2.1
  | blanks _ some all =>
      constructor
      · obtain ⟨c, rest, rfl⟩ := List.exists_cons_of_ne_nil some
        exact ⟨c, rest, rfl, .inl (all c (List.mem_cons_self ..))⟩
      · refine ⟨gap.dropLast, gap.getLast some, (List.dropLast_append_getLast some).symm, ?_⟩
        exact (ne_of_isBlank (all _ (List.getLast_mem some))).2.2.1

/-- Whatever the gap between them is, key and value are read back. -/
theorem Gap.readEntry_eq {entry : String × String} {gap : List Char}
    (apart : Gap entry.1.toList gap) (number : Nat) :
    readEntry ⟨number, escapeKey entry.1.toList ++ (gap ++ escapeValue entry.2.toList)⟩ =
      .ok entry := by
  obtain ⟨c, rest, begins, ends⟩ := apart.ends.1
  have separated : splitKey (gap ++ escapeValue entry.2.toList) =
      ([], gap ++ escapeValue entry.2.toList) := by
    rw [begins, List.cons_append]
    exact splitKey_of_ends ends _
  simp only [readEntry, splitKey_escapeKey separated, apart.skipSeparator_eq,
    unescape?_escapeKey, unescape?_escapeValue, String.ofList_toList]

theorem Gap.ne_of_mem {key gap : List Char} (apart : Gap key gap) {d : Char} (member : d ∈ gap) :
    d ≠ '\n' ∧ d ≠ '\r' := by
  have ofBlank : isBlank d = true → d ≠ '\n' ∧ d ≠ '\r' := fun blank =>
    ⟨(ne_of_isBlank blank).1, (ne_of_isBlank blank).2.1⟩
  cases apart with
  | sign first signs second =>
      rcases List.mem_append.1 member with inside | inside
      · exact ofBlank (first d inside)
      rcases List.mem_cons.1 inside with rfl | inside
      · rcases signs with rfl | rfl <;> decide
      · exact ofBlank (second d inside)
  | blanks _ _ all => exact ofBlank (all d member)

/-- The line of an entry holds no end of a line. -/
theorem LaidOut.ne_of_mem {entry : String × String} {line : List Char}
    (laidOut : LaidOut entry line) {d : Char} (member : d ∈ line) : d ≠ '\n' ∧ d ≠ '\r' := by
  cases laidOut with
  | line blanks apart =>
      rcases List.mem_append.1 member with inside | inside
      · exact ⟨(ne_of_isBlank (blanks d inside)).1, (ne_of_isBlank (blanks d inside)).2.1⟩
      rcases List.mem_append.1 inside with inside | inside
      · exact mem_escapeKey inside
      rcases List.mem_append.1 inside with inside | inside
      · exact apart.ne_of_mem inside
      · exact mem_escapeValue inside

theorem LaidOut.isContinued_eq {entry : String × String} {line : List Char}
    (laidOut : LaidOut entry line) : isContinued line = false := by
  cases laidOut with
  | @line lead gap blanks apart =>
      obtain ⟨front, c, last, noBackslash⟩ := apart.ends.2
      have split : lead ++ (escapeKey entry.1.toList ++ (gap ++ escapeValue entry.2.toList)) =
          ((lead ++ (escapeKey entry.1.toList ++ front)) ++ [c]) ++
            escapeValue entry.2.toList := by
        simp [last]
      rw [split]
      exact isContinued_append_escapeValue (isContinued_append_singleton noBackslash _) _

/-- Without its first blanks the line of an entry is an escaped key, a gap and an escaped value,
and no comment. -/
theorem LaidOut.exists_skipBlanks_eq {entry : String × String} {line : List Char}
    (laidOut : LaidOut entry line) :
    ∃ gap, Gap entry.1.toList gap ∧
      skipBlanks line = escapeKey entry.1.toList ++ (gap ++ escapeValue entry.2.toList) ∧
      isIgnored (skipBlanks line) = false := by
  cases laidOut with
  | @line lead gap blanks apart =>
      rw [skipBlanks_append blanks]
      cases named : entry.1.toList with
      | nil =>
          rw [named] at apart
          cases apart with
          | @sign before after sign first signs second =>
              have noBlank : isBlank sign = false := by
                rcases signs with rfl | rfl <;> rfl
              have content : skipBlanks (escapeKey [] ++
                  ((before ++ sign :: after) ++ escapeValue entry.2.toList)) =
                  sign :: (after ++ escapeValue entry.2.toList) := by
                rw [List.append_assoc]
                exact (skipBlanks_append first _).trans (skipBlanks_cons noBlank _)
              rw [content]
              refine ⟨[] ++ sign :: after, .sign (fun _ member => nomatch member) signs second,
                rfl, ?_⟩
              rcases signs with rfl | rfl <;> rfl
          | blanks named => exact absurd rfl named
      | cons c key =>
          obtain ⟨first, rest, form, noBlank, noMark⟩ := head_escapeCharacter c
          have begins : escapeKey (c :: key) = first :: (rest ++ escapeKey key) := by
            rw [← List.cons_append, ← form]
            rfl
          rw [named] at apart
          rw [begins, List.cons_append, skipBlanks_cons noBlank]
          refine ⟨gap, apart, rfl, ?_⟩
          simpa [isIgnored] using fun same : first ∈ ['#', '!'] =>
            noMark (List.mem_append_right ['=', ':'] same)

/-- The line of an entry is a logical line by itself, which is read as the entry. -/
theorem LaidOut.exists_logicalLines_eq {entry : String × String} {line ending : List Char}
    (laidOut : LaidOut entry line) (ends : LineEnd ending) (number : Nat) (rest : List Char) :
    ∃ content, logicalLines number none (naturalLines (line ++ (ending ++ rest))) =
        ⟨number, content⟩ :: logicalLines (number + 1) none (naturalLines rest) ∧
      readEntry ⟨number, content⟩ = .ok entry := by
  have noFeed : '\n' ∉ line := fun member => (laidOut.ne_of_mem member).1 rfl
  have noReturn : line.getLast? ≠ some '\r' := fun last =>
    (laidOut.ne_of_mem (List.mem_of_getLast? last)).2 rfl
  obtain ⟨gap, apart, content, counts⟩ := laidOut.exists_skipBlanks_eq
  refine ⟨skipBlanks line, ?_, ?_⟩
  · rw [(ends.endsLine noReturn rest).naturalLines_append noFeed]
    exact @logicalLines_of_complete none line counts laidOut.isContinued_eq number _
  · rw [content]
    exact apart.readEntry_eq number

/-! ### Layouts -/

/-- A text in which entries are laid out line by line, with comments and blank lines among them. -/
inductive Lays : List (String × String) → List Char → Prop where
  | nil : Lays [] []
  | idle {entries : List (String × String)} {line ending rest : List Char} (idle : Idle line)
      (ends : LineEnd ending) (behind : Lays entries rest) :
      Lays entries (line ++ (ending ++ rest))
  | entry {entry : String × String} {entries : List (String × String)}
      {line ending rest : List Char} (laidOut : LaidOut entry line) (ends : LineEnd ending)
      (behind : Lays entries rest) : Lays (entry :: entries) (line ++ (ending ++ rest))

/-- The entries that are laid out are read in their order. -/
theorem Lays.mapM_readEntry_eq {entries : List (String × String)} {text : List Char}
    (lays : Lays entries text) (number : Nat) :
    (logicalLines number none (naturalLines text)).mapM readEntry = .ok entries := by
  induction lays generalizing number with
  | nil => rfl
  | idle idle ends _ ih =>
      rw [idle.logicalLines_eq ends]
      exact ih (number + 1)
  | entry laidOut ends _ ih =>
      obtain ⟨content, lines, reads⟩ := laidOut.exists_logicalLines_eq ends number _
      rw [lines, List.mapM_cons, reads, ih (number + 1)]
      rfl

/-- However entries are laid out, they are read as the table in which every key has its last
value. -/
theorem read_of_lays {entries : List (String × String)} {text : List Char}
    (lays : Lays entries text) :
    ∃ table, read text = .ok table ∧ ∀ key value, table.get? key = some value ↔
      ∃ before after, entries = before ++ (key, value) :: after ∧
        ∀ later ∈ after, later.1 ≠ key := by
  refine ⟨Table.ofList entries, ?_, fun key value => Table.get?_ofList_eq_some_iff⟩
  rw [read_eq_map_entries, Properties.entries, linesOf, lays.mapM_readEntry_eq]
  rfl

/-- A comment that ends in a backslash, a blank line, both signs, blanks instead of a sign, and
both ends of a line. -/
theorem read_of_lays_mixed :
    ∃ table, read "# c\\\r\n \t\n  a\\ b : \\=1\r\n:\\ x\na\\ b \x0c 2\n".toList = .ok table ∧
      table.get? "a b" = some "2" ∧ table.get? "" = some " x" := by
  have none : Blanks [] := by decide
  have space : Blanks [' '] := by decide
  have comment : Idle "# c\\".toList := .comment none (.inl rfl) (by decide)
  have blank : Idle " \t".toList := .blank (by decide)
  have signed : LaidOut ("a b", "=1") "  a\\ b : \\=1".toList :=
    .line (space.append space) (.sign space (.inr rfl) space)
  have unnamed : LaidOut ("", " x") ":\\ x".toList := .line none (.sign none (.inr rfl) none)
  have spaces : Gap "a b".toList [' ', '\x0c', ' '] :=
    .blanks (by decide) (by decide) (by decide)
  have spaced : LaidOut ("a b", "2") "a\\ b \x0c 2".toList :=
    @LaidOut.line ("a b", "2") [] _ none spaces
  have lays : Lays [("a b", "=1"), ("", " x"), ("a b", "2")]
      "# c\\\r\n \t\n  a\\ b : \\=1\r\n:\\ x\na\\ b \x0c 2\n".toList :=
    .idle comment .carriage (.idle blank .feed (.entry signed .carriage
      (.entry unnamed .feed (.entry spaced .feed .nil))))
  obtain ⟨table, reads, values⟩ := read_of_lays lays
  refine ⟨table, reads, (values _ _).2 ?_, (values _ _).2 ?_⟩
  · exact ⟨[("a b", "=1"), ("", " x")], [], rfl, by decide⟩
  · exact ⟨[("a b", "=1")], [("a b", "2")], rfl, by decide⟩

end Settings.Properties
