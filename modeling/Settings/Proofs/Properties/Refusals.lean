import Settings.Proofs.Properties.Unicode

/-!
Texts of properties that are refused, and the line of which the refusal speaks.

A logical line is joined from a run of natural lines and has the number of the first of them.
Its entry can be read if the escapes in its key and in its value are well formed, or if they
would be but for plus signs in place of digits.  The first line of which this does not hold
decides how the whole text is refused.
-/

namespace Settings.Properties

/-! ### Joining lines -/

/-- What a natural line adds to a logical one: all behind its first blanks, but for the last
backslash of a line that is continued. -/
def contribution (natural : List Char) : List Char :=
  if isContinued natural then (skipBlanks natural).dropLast else skipBlanks natural

/-- The logical line begins with the natural lines of the run, of which the first is no blank
line and no comment.  No line is open before them, and their count gives the number. -/
structure LogicalLine.Begins (before run : List (List Char)) (line : LogicalLine) : Prop where
  fresh : leavesOpen before = false
  number : line.number = before.length + 1
  first : ∃ natural others, run = natural :: others ∧ isIgnored (skipBlanks natural) = false
  content : line.content = run.flatMap contribution

/-- The logical line is joined from the natural lines of the run.  All but the last of them are
continued, and the last only if no line follows it. -/
structure LogicalLine.Joined (before run after : List (List Char)) (line : LogicalLine) : Prop where
  begins : line.Begins before run
  continued : ∀ natural ∈ run.dropLast, isContinued natural = true
  ends : (∃ natural ∈ run.getLast?, isContinued natural = false) ∨ after = []

/-- What is pending behind some natural lines: nothing if they leave no line open, and else the
line that their last ones begin. -/
inductive Pending (front : List (List Char)) : Option LogicalLine → Prop where
  | none (closed : leavesOpen front = false) : Pending front none
  | some {before run : List (List Char)} {line : LogicalLine} (split : front = before ++ run)
      (begins : line.Begins before run) (continued : ∀ natural ∈ run, isContinued natural = true) :
      Pending front (some line)

/-- The line that is pending, or an empty one that begins behind the natural lines. -/
def current (front : List (List Char)) (pending : Option LogicalLine) : LogicalLine :=
  pending.getD ⟨front.length + 1, []⟩

/-- The next natural line is added to the line that is pending, or begins a new one. -/
theorem Pending.exists_begins {front : List (List Char)} {pending : Option LogicalLine}
    (holds : Pending front pending) {natural : List Char}
    (counts : (pending.isNone && isIgnored (skipBlanks natural)) = false) :
    ∃ before run, front ++ [natural] = before ++ (run ++ [natural]) ∧
      (∀ earlier ∈ run, isContinued earlier = true) ∧
      LogicalLine.Begins before (run ++ [natural]) ⟨(current front pending).number,
        (current front pending).content ++ contribution natural⟩ := by
  cases holds with
  | none closed =>
      refine ⟨front, [], rfl, by simp, ?_⟩
      exact { fresh := closed, number := rfl, first := ⟨natural, [], rfl, counts⟩,
              content := by simp [current] }
  | @some before run line split begins continued =>
      rcases begins.first with ⟨first, others, rfl, counted⟩
      refine ⟨before, first :: others, by rw [split, List.append_assoc], continued, ?_⟩
      exact { fresh := begins.fresh, number := begins.number,
              first := ⟨first, others ++ [natural], rfl, counted⟩,
              content := by simp [current, begins.content] }

/-- Every logical line is joined from a run of natural lines. -/
theorem exists_joined {front : List (List Char)} {pending : Option LogicalLine}
    (holds : Pending front pending) {lines : List (List Char)} {line : LogicalLine}
    (listed : line ∈ logicalLines (front.length + 1) pending lines) :
    ∃ before run after, front ++ lines = before ++ run ++ after ∧ line.Joined before run after := by
  induction lines generalizing front pending with
  | nil =>
      cases holds with
      | none => cases listed
      | @some before run opened split begins continued =>
          rcases List.mem_singleton.1 listed with rfl
          refine ⟨before, run, [], by rw [split], begins, ?_, .inr rfl⟩
          exact fun natural earlier => continued natural (List.dropLast_subset _ earlier)
  | cons natural lines ih =>
      have whole : front ++ natural :: lines = (front ++ [natural]) ++ lines := by simp
      have count : front.length + 1 + 1 = (front ++ [natural]).length + 1 := by simp
      rw [logicalLines, count] at listed
      rw [whole]
      split at listed
      · next ignored =>
          have closed : leavesOpen (front ++ [natural]) = false := by
            cases holds with
            | none closed =>
                rw [leavesOpen_append_singleton, closed, opensLine]
                simp [show isIgnored (skipBlanks natural) = true from ignored]
            | some => cases ignored
          exact ih (.none closed) listed
      · next counts =>
          rcases holds.exists_begins (Bool.eq_false_iff.2 counts) with
            ⟨before, run, split, continued, begins⟩
          rw [contribution, ← isContinued_skipBlanks] at begins
          split at listed
          · next goesOn =>
              rw [if_pos goesOn] at begins
              refine ih (.some split begins ?_) listed
              intro earlier member
              rcases List.mem_append.1 member with before | last
              · exact continued earlier before
              · rw [List.mem_singleton.1 last, ← isContinued_skipBlanks]
                exact goesOn
          · next stops =>
              rw [if_neg stops] at begins
              have stops' : isContinued natural = false := by
                rw [← isContinued_skipBlanks]
                exact Bool.eq_false_iff.2 stops
              rcases List.mem_cons.1 listed with rfl | later
              · refine ⟨before, run ++ [natural], lines, by rw [split], begins, ?_, .inl ?_⟩
                · simpa using continued
                · exact ⟨natural, by simp, stops'⟩
              · refine ih (.none ?_) later
                rw [leavesOpen_append_singleton, opensLine, stops', Bool.false_and]

/-- Logical lines are numbered upwards, from the number of the line that is pending. -/
theorem pairwise_logicalLines (number : Nat) (pending : Option LogicalLine)
    (earlier : ∀ line ∈ pending, line.number < number) (lines : List (List Char)) :
    (logicalLines number pending lines).Pairwise (fun line later => line.number < later.number) ∧
      ∀ line ∈ logicalLines number pending lines,
        (pending.getD ⟨number, []⟩).number ≤ line.number := by
  induction lines generalizing number pending with
  | nil => cases pending <;> simp [logicalLines]
  | cons natural lines ih =>
      have below : (pending.getD ⟨number, []⟩).number < number + 1 := by
        cases pending with
        | none => exact Nat.lt_succ_self number
        | some line => exact Nat.lt_succ_of_lt (earlier line rfl)
      rcases ih (number + 1) none (by simp) with ⟨ordered, above⟩
      rw [logicalLines]
      split
      · exact ⟨ordered, fun line listed => Nat.le_trans (Nat.le_of_lt below) (above line listed)⟩
      split
      · exact ih (number + 1) (some _) (by simpa using below)
      · refine ⟨List.pairwise_cons.2 ⟨?_, ordered⟩, ?_⟩
        · exact fun later listed => Nat.lt_of_lt_of_le below (above later listed)
        · intro line listed
          rcases List.mem_cons.1 listed with rfl | later
          · exact Nat.le_refl _
          · exact Nat.le_trans (Nat.le_of_lt below) (above line later)

/-! ### Lines that are read -/

/-- The escapes in the key and in the value of the line are well formed, by the fields in which
units may be written. -/
structure LogicalLine.Escaped (writes : List Char → Nat → Prop) (line : LogicalLine) : Prop where
  key : Properties.Escaped writes (splitKey line.content).1
  value : Properties.Escaped writes (skipSeparator (splitKey line.content).2)

theorem LogicalLine.Escaped.readUnit {line : LogicalLine} (escaped : line.Escaped HexUnit) :
    line.Escaped ReadUnit :=
  ⟨escaped.key.readUnit, escaped.value.readUnit⟩

/-- A line gives an entry if its escapes can be read, and else a fault that has its number. -/
theorem readEntry_cases (line : LogicalLine) :
    (line.Escaped ReadUnit ∧ ∃ entry, readEntry line = .ok entry) ∨
      (¬line.Escaped ReadUnit ∧ readEntry line = .error ⟨line.number⟩) := by
  rw [readEntry]
  dsimp only
  split
  · next key value keyReads valueReads =>
      refine .inl ⟨⟨?_, ?_⟩, _, rfl⟩
      · exact exists_unescape?_eq_some_iff.1 ⟨key, keyReads⟩
      · exact exists_unescape?_eq_some_iff.1 ⟨value, valueReads⟩
  · next unread =>
      refine .inr ⟨fun escaped => ?_, rfl⟩
      rcases exists_unescape?_eq_some_iff.2 escaped.key with ⟨key, keyReads⟩
      rcases exists_unescape?_eq_some_iff.2 escaped.value with ⟨value, valueReads⟩
      exact unread key value keyReads valueReads

theorem exists_readEntry_eq_ok_iff {line : LogicalLine} :
    (∃ entry, readEntry line = .ok entry) ↔ line.Escaped ReadUnit := by
  rcases readEntry_cases line with ⟨escaped, reads⟩ | ⟨unread, fails⟩
  · exact iff_of_true reads escaped
  · refine iff_of_false ?_ unread
    rw [fails]
    rintro ⟨entry, ⟨⟩⟩

theorem readEntry_eq_error_iff {line : LogicalLine} {fault : SyntaxFault} :
    readEntry line = .error fault ↔ ¬line.Escaped ReadUnit ∧ fault = ⟨line.number⟩ := by
  rcases readEntry_cases line with ⟨escaped, entry, reads⟩ | ⟨unread, fails⟩
  · rw [reads]
    exact iff_of_false (by rintro ⟨⟩) fun refused => refused.1 escaped
  · rw [fails]
    constructor
    · rintro ⟨⟩
      exact ⟨unread, rfl⟩
    · rintro ⟨-, rfl⟩
      rfl

/-! ### The first line that is not read -/

/-- The first of the lines that is not as it should be. -/
def FirstNot (holds : LogicalLine → Prop) (lines : List LogicalLine) (line : LogicalLine) : Prop :=
  ∃ before after, lines = before ++ line :: after ∧ (∀ earlier ∈ before, holds earlier) ∧
    ¬holds line

/-- There is a first one unless all are as they should be. -/
theorem exists_firstNot {holds : LogicalLine → Prop} {lines : List LogicalLine}
    (fails : ¬∀ line ∈ lines, holds line) : ∃ line, FirstNot holds lines line := by
  induction lines with
  | nil => exact absurd (by simp) fails
  | cons line lines ih =>
      by_cases first : holds line
      · have others : ¬∀ later ∈ lines, holds later :=
          fun all => fails (List.forall_mem_cons.2 ⟨first, all⟩)
        rcases ih others with ⟨found, before, after, rfl, earlier, fails⟩
        exact ⟨found, line :: before, after, rfl, List.forall_mem_cons.2 ⟨first, earlier⟩, fails⟩
      · exact ⟨line, [], lines, rfl, by simp, first⟩

theorem exists_read_eq_ok_iff {text : List Char} :
    (∃ table, read text = .ok table) ↔ ∀ line ∈ linesOf text, line.Escaped ReadUnit := by
  have whole : (∃ table, read text = .ok table) ↔ ∃ found, entries text = .ok found := by
    rw [read_eq_map_entries]
    cases entries text <;> simp [Except.map]
  rw [whole, entries, exists_mapM_eq_ok_iff]
  simp only [exists_readEntry_eq_ok_iff]

/-- A text is refused for the first line that cannot be read, with the number of that line. -/
theorem read_eq_error_iff {text : List Char} {fault : SyntaxFault} :
    read text = .error fault ↔
      ∃ line, FirstNot (·.Escaped ReadUnit) (linesOf text) line ∧ fault = ⟨line.number⟩ := by
  rw [read_eq_map_entries, map_eq_error_iff, entries]
  constructor
  · intro refused
    rcases exists_of_mapM_eq_error refused with ⟨before, line, after, split, earlier, fails⟩
    rcases readEntry_eq_error_iff.1 fails with ⟨unread, rfl⟩
    refine ⟨line, ⟨before, after, split, ?_, unread⟩, rfl⟩
    exact fun other member => exists_readEntry_eq_ok_iff.1 (earlier other member)
  · rintro ⟨line, ⟨before, after, split, earlier, unread⟩, rfl⟩
    rw [split]
    apply mapM_eq_error after
    · exact fun other member => exists_readEntry_eq_ok_iff.2 (earlier other member)
    · exact readEntry_eq_error_iff.2 ⟨unread, rfl⟩

/-! ### Well-formed escapes -/

/-- The text is read if all of its escapes are well formed, and else refused for the first line
in which one is not, with the number of that line. -/
structure Conforms (text : List Char) (outcome : Except SyntaxFault (Table String)) : Prop where
  accepted : (∃ table, outcome = .ok table) ↔ ∀ line ∈ linesOf text, line.Escaped HexUnit
  refused : ∀ line, FirstNot (·.Escaped HexUnit) (linesOf text) line →
    outcome = .error ⟨line.number⟩

/-- The first line with an escape that is not well formed is read for all that, for in its
escapes plus signs stand in place of digits. -/
def TakesSign (text : List Char) : Prop :=
  ∃ line, FirstNot (·.Escaped HexUnit) (linesOf text) line ∧ line.Escaped ReadUnit

/-- A line that is read is not the one for which the text is refused. -/
theorem read_ne_error_of_escaped {text : List Char} {line : LogicalLine}
    (first : FirstNot (·.Escaped HexUnit) (linesOf text) line) (reads : line.Escaped ReadUnit) :
    read text ≠ .error ⟨line.number⟩ := by
  intro refused
  rcases read_eq_error_iff.1 refused with ⟨other, ⟨before', after', split', earlier', unread⟩, same⟩
  rcases first with ⟨before, after, split, earlier, malformed⟩
  have number : line.number = other.number := congrArg SyntaxFault.line same
  have ordered := (pairwise_logicalLines 1 none (by simp) (naturalLines text)).1
  have listed : other ∈ linesOf text := by
    rw [split']
    exact List.mem_append_right _ (List.mem_cons_self ..)
  rw [← linesOf, split] at ordered
  rw [split] at listed
  -- Lines before this one are well formed, this one is read, and later ones have other numbers.
  rcases List.pairwise_append.1 ordered with ⟨-, behind, -⟩
  rcases List.mem_append.1 listed with before | others
  · exact unread (earlier other before).readUnit
  rcases List.mem_cons.1 others with rfl | later
  · exact unread reads
  · have above := (List.pairwise_cons.1 behind).1 other later
    rw [number] at above
    exact Nat.lt_irrefl _ above

/-- Texts are read or refused as their escapes are well formed or not, but for those in whose
first malformed line plus signs stand in place of digits.  A text is refused for the first line
that cannot be read even so, and the number of every line is that of its first natural line. -/
theorem conforms_read_iff (text : List Char) :
    (Conforms text (read text) ↔ ¬TakesSign text) ∧
    (∀ fault, read text = .error fault ↔
      ∃ line, FirstNot (·.Escaped ReadUnit) (linesOf text) line ∧ fault = ⟨line.number⟩) ∧
    (∀ line ∈ linesOf text, ∃ before run after, naturalLines text = before ++ run ++ after ∧
      line.Joined before run after) := by
  refine ⟨⟨?_, ?_⟩, fun fault => read_eq_error_iff, ?_⟩
  · rintro conforms ⟨line, first, reads⟩
    exact read_ne_error_of_escaped first reads (conforms.refused line first)
  · intro straight
    have refused : ∀ line, FirstNot (·.Escaped HexUnit) (linesOf text) line →
        read text = .error ⟨line.number⟩ := by
      intro line first
      have unread : ¬line.Escaped ReadUnit := fun reads => straight ⟨line, first, reads⟩
      rcases first with ⟨before, after, split, earlier, -⟩
      refine read_eq_error_iff.2 ⟨line, ⟨before, after, split, ?_, unread⟩, rfl⟩
      exact fun other member => (earlier other member).readUnit
    refine ⟨⟨?_, ?_⟩, refused⟩
    · rintro ⟨table, reads⟩
      by_contra fails
      rcases exists_firstNot fails with ⟨line, first⟩
      rw [refused line first] at reads
      cases reads
    · exact fun all => exists_read_eq_ok_iff.2 fun line listed => (all line listed).readUnit
  · intro line listed
    have nothing : Pending [] none := .none rfl
    exact exists_joined nothing listed

/-- A plus sign and three digits are read as a unit, so that the text is not refused. -/
theorem not_conforms_read :
    read "a=\\u+041".toList = .ok ⟨[("a", "A")], by decide⟩ ∧
      ¬Conforms "a=\\u+041".toList (read "a=\\u+041".toList) := by
  have reads : read "a=\\u+041".toList = .ok ⟨[("a", "A")], by decide⟩ := by decide +kernel
  refine ⟨reads, fun conforms => ?_⟩
  have escaped := conforms.accepted.1 ⟨_, reads⟩ ⟨1, "a=\\u+041".toList⟩ (by decide)
  have value : skipSeparator (splitKey "a=\\u+041".toList).2 =
      '\\' :: 'u' :: '+' :: "041".toList := by decide +kernel
  have malformed := not_escaped_plus "041".toList
  rw [← value] at malformed
  exact malformed escaped.value

end Settings.Properties
