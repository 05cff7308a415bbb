import Settings.Proofs.Properties.Export
import Settings.Proofs.Traversals

/-!
Texts of properties put together.

A text that leaves no logical line open is read for itself, whatever follows it on new lines:
its natural lines are those of the whole text up to there, its logical lines do not reach
beyond, and the lines behind it are numbered on.  So the entries of two texts are the entries
of both in a row, of which later ones count, just as a store that is merged into another one
overrides it.
-/

namespace Settings.Properties

/-! ### Natural lines -/

theorem naturalLines_ne_nil (c : Char) (text : List Char) : naturalLines (c :: text) ≠ [] := by
  rw [naturalLines.eq_def]
  split
  · next empty => cases empty
  · exact List.cons_ne_nil _ _
  · exact List.cons_ne_nil _ _
  · split
    · exact List.cons_ne_nil _ _
    · exact List.cons_ne_nil _ _

/-- A character in front of a text acts on the first natural line only: it stands in front of
that line, is the end of an empty line before it, or is the carriage return of its end.  The
next character decides which. -/
theorem exists_naturalLines_cons (c d : Char) :
    ∃ extend : List (List Char) → List (List Char),
      (∀ lines others, lines ≠ [] → extend (lines ++ others) = extend lines ++ others) ∧
        ∀ text, naturalLines (c :: d :: text) = extend (naturalLines (d :: text)) := by
  by_cases feed : c = '\n'
  · subst feed
    exact ⟨fun lines => [] :: lines, fun lines others _ => rfl, fun text => by rw [naturalLines]⟩
  by_cases ends : c = '\r' ∧ d = '\n'
  · obtain ⟨rfl, rfl⟩ := ends
    exact ⟨id, fun lines others _ => rfl, fun text => rfl⟩
  refine ⟨List.modifyHead (c :: ·), ?_, ?_⟩
  · intro lines others counted
    cases lines with
    | nil => exact absurd rfl counted
    | cons line lines => rfl
  · intro text
    obtain ⟨line, others, lines⟩ := List.exists_cons_of_ne_nil (naturalLines_ne_nil d text)
    have noEnd : c = '\r' → (d :: text).head? ≠ some '\n' :=
      fun carriage first => ends ⟨carriage, Option.some.inj first⟩
    rw [naturalLines_cons feed noEnd lines, lines]
    rfl

/-- A line feed ends a natural line, so the text behind it has natural lines of its own. -/
theorem naturalLines_append_feed (text rest : List Char) :
    naturalLines (text ++ '\n' :: rest) = naturalLines (text ++ ['\n']) ++ naturalLines rest := by
  induction text with
  | nil => rfl
  | cons c text ih =>
      cases text with
      | nil =>
          obtain ⟨extend, onFirst, lines⟩ := exists_naturalLines_cons c '\n'
          have behind := ih
          rw [List.nil_append, List.nil_append] at behind
          rw [List.singleton_append, List.singleton_append, lines, lines, behind]
          exact onFirst _ _ (naturalLines_ne_nil _ _)
      | cons d text =>
          obtain ⟨extend, onFirst, lines⟩ := exists_naturalLines_cons c d
          have behind := ih
          rw [List.cons_append, List.cons_append] at behind ⊢
          rw [List.cons_append, List.cons_append, lines, lines, behind]
          exact onFirst _ _ (naturalLines_ne_nil _ _)

/-- A line feed at the end of a text closes its last natural line, or adds an empty one where
that is closed already. -/
theorem naturalLines_append_singleton_feed {text : List Char}
    (noReturn : text.getLast? ≠ some '\r') :
    naturalLines (text ++ ['\n']) = naturalLines text ∨
      naturalLines (text ++ ['\n']) = naturalLines text ++ [[]] := by
  induction text with
  | nil => exact .inr rfl
  | cons c text ih =>
      cases text with
      | nil =>
          by_cases feed : c = '\n'
          · subst feed
            exact .inr rfl
          · have noReturn : c ≠ '\r' := fun carriage => noReturn (congrArg some carriage)
            have closed : naturalLines ([c] ++ ['\n']) = [[c]] :=
              naturalLines_append (by simpa using ⟨feed, noReturn⟩) []
            have single : naturalLines [c] = [[c]] := by simp [naturalLines]
            rw [closed, single]
            exact .inl rfl
      | cons d text =>
          obtain ⟨extend, onFirst, lines⟩ := exists_naturalLines_cons c d
          have behind := ih (by simpa using noReturn)
          rw [List.cons_append, List.cons_append, lines, lines]
          rw [List.cons_append] at behind
          rcases behind with closed | added
          · rw [closed]
            exact .inl rfl
          · rw [added]
            exact .inr (onFirst _ _ (naturalLines_ne_nil _ _))

/-! ### Logical lines -/

/-- Whether a logical line is to be continued behind a natural line, by whether one was before:
the natural line ends in an odd number of backslashes, and it is no blank line and no comment
outside of a continuation. -/
def opensLine (opened : Bool) (natural : List Char) : Bool :=
  isContinued natural && (opened || !isIgnored (skipBlanks natural))

/-- Natural lines that leave a logical line open at their end. -/
def leavesOpen (lines : List (List Char)) : Bool := lines.foldl opensLine false

/-- The last natural line closes what is open if it ends in an even number of backslashes, and
opens nothing if it is blank or a comment and nothing is open. -/
theorem leavesOpen_append_singleton (lines : List (List Char)) (last : List Char) :
    leavesOpen (lines ++ [last]) = opensLine (leavesOpen lines) last := by
  rw [leavesOpen, List.foldl_append]
  rfl

theorem isContinued_cons {c : Char} (noBackslash : c ≠ '\\') (rest : List Char) :
    isContinued (c :: rest) = isContinued rest := by
  have alone : [c].takeWhile (· == '\\') = [] := by simp [noBackslash]
  rw [isContinued, isContinued, List.reverse_cons, List.takeWhile_append, alone, List.append_nil]
  split
  · next whole => rw [(List.takeWhile_prefix _).eq_of_length whole]
  · rfl

/-- An even number of backslashes in front does not change whether the line is continued. -/
theorem isContinued_append {first : List Char} (even : isContinued first = false)
    (second : List Char) : isContinued (first ++ second) = isContinued second := by
  rw [isContinued, isContinued, List.reverse_append, List.takeWhile_append]
  rw [isContinued, beq_eq_false_iff_ne] at even
  split
  · next whole =>
      rw [List.length_append, (List.takeWhile_prefix _).eq_of_length whole]
      congr 1
      omega
  · rfl

/-- Blanks at the start of a line are no backslashes at its end. -/
theorem isContinued_skipBlanks (natural : List Char) :
    isContinued (skipBlanks natural) = isContinued natural := by
  induction natural with
  | nil => rfl
  | cons c rest ih =>
      rw [skipBlanks, List.dropWhile_cons]
      split
      · next blank =>
          have noBackslash : c ≠ '\\' := by
            rintro rfl
            cases blank
          rw [isContinued_cons noBackslash]
          exact ih
      · rfl

section

variable {pending : Option LogicalLine} {natural : List Char}

/-- A natural line that is ignored is left out where no line is pending. -/
theorem logicalLines_of_ignored (ignored : isIgnored (skipBlanks natural) = true) (number : Nat)
    (after : List (List Char)) :
    logicalLines number none (natural :: after) = logicalLines (number + 1) none after := by
  rw [logicalLines]
  exact if_pos ignored

/-- A natural line that is continued is added to the line that is pending. -/
theorem logicalLines_of_continued
    (counts : (pending.isNone && isIgnored (skipBlanks natural)) = false)
    (continued : isContinued natural = true) (number : Nat) (after : List (List Char)) :
    logicalLines number pending (natural :: after) =
      logicalLines (number + 1) (some ⟨(pending.getD ⟨number, []⟩).number,
        (pending.getD ⟨number, []⟩).content ++ (skipBlanks natural).dropLast⟩) after := by
  rw [← isContinued_skipBlanks] at continued
  simp [logicalLines, counts, continued]

/-- A natural line that is not continued completes the line that is pending. -/
theorem logicalLines_of_complete
    (counts : (pending.isNone && isIgnored (skipBlanks natural)) = false)
    (complete : isContinued natural = false) (number : Nat) (after : List (List Char)) :
    logicalLines number pending (natural :: after) =
      ⟨(pending.getD ⟨number, []⟩).number,
        (pending.getD ⟨number, []⟩).content ++ skipBlanks natural⟩ ::
        logicalLines (number + 1) none after := by
  rw [← isContinued_skipBlanks] at complete
  simp [logicalLines, counts, complete]

end

/-- What natural lines give, whatever stands behind them: the logical lines that are complete at
their end, and the one that is still to be continued there.  Both begin among them. -/
theorem exists_logicalLines_append (front : List (List Char)) (number : Nat)
    (pending : Option LogicalLine) (earlier : ∀ line ∈ pending, line.number < number) :
    ∃ complete opened,
      (∀ back, logicalLines number pending (front ++ back) =
        complete ++ logicalLines (number + front.length) opened back) ∧
      opened.isSome = front.foldl opensLine pending.isSome ∧
      (∀ line ∈ complete, line.number < number + front.length) ∧
      ∀ line ∈ opened, line.number < number + front.length := by
  induction front generalizing number pending with
  | nil => exact ⟨[], pending, fun _ => rfl, rfl, by simp, earlier⟩
  | cons natural front ih =>
      have count : number + (natural :: front).length = number + 1 + front.length := by
        rw [List.length_cons]
        omega
      have begins : (pending.getD ⟨number, []⟩).number < number + 1 := by
        cases pending with
        | none => exact Nat.lt_succ_self number
        | some line => exact Nat.lt_succ_of_lt (earlier line rfl)
      rw [List.foldl_cons, opensLine, count]
      by_cases ignored : (pending.isNone && isIgnored (skipBlanks natural)) = true
      · obtain ⟨fresh, empty⟩ := Bool.and_eq_true_iff.1 ignored
        obtain rfl := Option.isNone_iff_eq_none.1 fresh
        obtain ⟨complete, opened, splits, opens, numbered⟩ := ih (number + 1) none (by simp)
        refine ⟨complete, opened, fun back => ?_, ?_, numbered⟩
        · rw [List.cons_append, logicalLines_of_ignored empty, splits]
        · simpa [empty] using opens
      replace ignored := Bool.eq_false_iff.2 ignored
      cases continued : isContinued natural with
      | true =>
          obtain ⟨complete, opened, splits, opens, numbered⟩ := ih (number + 1)
            (some ⟨(pending.getD ⟨number, []⟩).number,
              (pending.getD ⟨number, []⟩).content ++ (skipBlanks natural).dropLast⟩)
            (by simpa using begins)
          have counts : (pending.isSome || !isIgnored (skipBlanks natural)) = true := by
            cases pending with
            | none => simpa using ignored
            | some line => rfl
          refine ⟨complete, opened, fun back => ?_, ?_, numbered⟩
          · rw [List.cons_append, logicalLines_of_continued ignored continued, splits]
          · rw [counts]
            exact opens
      | false =>
          obtain ⟨complete, opened, splits, opens, numbered, later⟩ :=
            ih (number + 1) none (by simp)
          refine ⟨⟨(pending.getD ⟨number, []⟩).number,
            (pending.getD ⟨number, []⟩).content ++ skipBlanks natural⟩ :: complete, opened,
            fun back => ?_, ?_, ?_, later⟩
          · rw [List.cons_append, logicalLines_of_complete ignored continued, splits]
            rfl
          · exact opens
          · refine List.forall_mem_cons.2 ⟨?_, numbered⟩
            exact Nat.lt_of_lt_of_le begins (Nat.le_add_right _ _)

/-- Natural lines that leave no logical line open have logical lines of their own, and so have
those behind them. -/
theorem logicalLines_append {front : List (List Char)} (closed : leavesOpen front = false)
    (number : Nat) (back : List (List Char)) :
    logicalLines number none (front ++ back) =
      logicalLines number none front ++ logicalLines (number + front.length) none back := by
  obtain ⟨complete, opened, splits, opens, -⟩ :=
    exists_logicalLines_append front number none (by simp)
  have nothing : opened.isSome = false := opens.trans closed
  obtain rfl := Option.isNone_iff_eq_none.1 (Option.isSome_eq_false_iff.1 nothing)
  have own := splits []
  rw [List.append_nil] at own
  rw [splits, own]
  exact congrArg (· ++ _) (List.append_nil complete).symm

/-- The logical lines of a text. -/
def linesOf (text : List Char) : List LogicalLine := logicalLines 1 none (naturalLines text)

/-- The line under another number. -/
def LogicalLine.renumber (change : Nat → Nat) (line : LogicalLine) : LogicalLine :=
  ⟨change line.number, line.content⟩

/-- The fault on a line that has another number. -/
def SyntaxFault.renumber (change : Nat → Nat) (fault : SyntaxFault) : SyntaxFault :=
  ⟨change fault.line⟩

/-- The line numbered on by a count. -/
def LogicalLine.shift (count : Nat) (line : LogicalLine) : LogicalLine :=
  ⟨line.number + count, line.content⟩

/-- The fault on a line numbered on by a count. -/
def SyntaxFault.shift (count : Nat) (fault : SyntaxFault) : SyntaxFault := ⟨fault.line + count⟩

/-- Logical lines are the same however the natural lines are numbered, but for their numbers. -/
theorem logicalLines_renumber {change : Nat → Nat} {number : Nat}
    (follows : ∀ later, number ≤ later → change (later + 1) = change later + 1)
    (pending : Option LogicalLine) (lines : List (List Char)) :
    logicalLines (change number) (pending.map (LogicalLine.renumber change)) lines =
      (logicalLines number pending lines).map (LogicalLine.renumber change) := by
  induction lines generalizing number pending with
  | nil => cases pending <;> rfl
  | cons natural lines ih =>
      have next : change number + 1 = change (number + 1) := (follows number (Nat.le_refl _)).symm
      have behind : ∀ later, number + 1 ≤ later → change (later + 1) = change later + 1 :=
        fun later above => follows later (Nat.le_of_succ_le above)
      have lead : (pending.map (LogicalLine.renumber change)).getD ⟨change number, []⟩ =
          (pending.getD ⟨number, []⟩).renumber change := by cases pending <;> rfl
      rw [logicalLines, logicalLines, lead, next, Option.isNone_map]
      dsimp only
      split
      · exact ih behind none
      split
      · exact ih behind (some ⟨(pending.getD ⟨number, []⟩).number,
          (pending.getD ⟨number, []⟩).content ++ (skipBlanks natural).dropLast⟩)
      · rw [List.map_cons, ← ih behind none]
        rfl

/-- Logical lines are the same wherever the numbering begins, but for their numbers. -/
theorem logicalLines_shift (number count : Nat) (lines : List (List Char)) :
    logicalLines (number + count) none lines =
      (logicalLines number none lines).map (LogicalLine.shift count) :=
  @logicalLines_renumber (· + count) number (fun later _ => Nat.succ_add later count) none lines

/-! ### Entries -/

theorem readEntry_renumber (change : Nat → Nat) (line : LogicalLine) :
    readEntry (line.renumber change) = (readEntry line).mapError (SyntaxFault.renumber change) := by
  simp only [readEntry, LogicalLine.renumber]
  split <;> rfl

/-- Lines under other numbers give the same entries, and faults under those numbers. -/
theorem mapM_readEntry_renumber (change : Nat → Nat) (lines : List LogicalLine) :
    (lines.map (LogicalLine.renumber change)).mapM readEntry =
      (lines.mapM readEntry).mapError (SyntaxFault.renumber change) := by
  have each : readEntry ∘ LogicalLine.renumber change =
      fun line => (readEntry line).mapError (SyntaxFault.renumber change) :=
    funext (readEntry_renumber change)
  rw [List.mapM_map, each, mapM_mapError]

/-- The entries of a text, in their order. -/
def entries (text : List Char) : Except SyntaxFault (List (String × String)) :=
  (linesOf text).mapM readEntry

theorem read_eq_map_entries (text : List Char) : read text = (entries text).map Table.ofList := by
  rw [read, entries, linesOf]
  cases (logicalLines 1 none (naturalLines text)).mapM readEntry <;> rfl

/-- Behind a line feed, the logical lines of the second text are numbered on. -/
theorem linesOf_append_feed {front : List Char} (noReturn : front.getLast? ≠ some '\r')
    (closed : leavesOpen (naturalLines front) = false) (back : List Char) :
    linesOf (front ++ '\n' :: back) = linesOf front ++
      (linesOf back).map (LogicalLine.shift (naturalLines (front ++ ['\n'])).length) := by
  have own : leavesOpen (naturalLines (front ++ ['\n'])) = false ∧
      logicalLines 1 none (naturalLines (front ++ ['\n'])) =
        logicalLines 1 none (naturalLines front) := by
    rcases naturalLines_append_singleton_feed noReturn with same | added
    · rw [same]
      exact ⟨closed, rfl⟩
    · rw [added, leavesOpen_append_singleton, logicalLines_append closed]
      exact ⟨rfl, List.append_nil _⟩
  rw [linesOf, naturalLines_append_feed, logicalLines_append own.1, own.2, linesOf, linesOf,
    ← logicalLines_shift]

/-- The entries of two texts are those of the first and those of the second, with its faults
numbered on. -/
theorem entries_append {front : List Char} (noReturn : front.getLast? ≠ some '\r')
    (closed : leavesOpen (naturalLines front) = false) (back : List Char) :
    entries (front ++ '\n' :: back) = (do
      let first ← entries front
      let second ← (entries back).mapError
        (SyntaxFault.shift (naturalLines (front ++ ['\n'])).length)
      return first ++ second) := by
  have shifted := mapM_readEntry_renumber (· + (naturalLines (front ++ ['\n'])).length)
    (linesOf back)
  rw [entries, linesOf_append_feed noReturn closed, List.mapM_append]
  exact congrArg _ (funext fun first => congrArg (· >>= _) shifted)

/-- Two texts are read as the table of the first, overridden by that of the second. -/
theorem read_append {front : List Char} (noReturn : front.getLast? ≠ some '\r')
    (closed : leavesOpen (naturalLines front) = false) (back : List Char) :
    read (front ++ '\n' :: back) = (do
      let left ← read front
      let right ← (read back).mapError
        (SyntaxFault.shift (naturalLines (front ++ ['\n'])).length)
      return left.override right) := by
  simp only [read_eq_map_entries, entries_append noReturn closed]
  cases entries front with
  | error fault => rfl
  | ok first =>
      cases entries back with
      | error fault => rfl
      | ok second => exact congrArg Except.ok (Table.ofList_append first second)

end Settings.Properties

namespace Settings.Store

open Properties (naturalLines leavesOpen)

/-- Where the first of two texts of properties leaves no line open, both together make up the
store of the first with the store of the second merged into it.  If the first is refused, both
together are refused on the same line; if only the second is, on its line counted on from the
natural lines before it. -/
theorem ofProperties_read_append {front : List Char} (noReturn : front.getLast? ≠ some '\r')
    (closed : leavesOpen (naturalLines front) = false) (back : List Char) :
    (∀ left right, Properties.read front = .ok left → Properties.read back = .ok right →
      ∃ both, Properties.read (front ++ '\n' :: back) = .ok both ∧
        ofProperties both = (ofProperties left).override (ofProperties right)) ∧
    (∀ fault, Properties.read front = .error fault →
      Properties.read (front ++ '\n' :: back) = .error fault) ∧
    (∀ left fault, Properties.read front = .ok left → Properties.read back = .error fault →
      Properties.read (front ++ '\n' :: back) =
        .error ⟨fault.line + (naturalLines (front ++ ['\n'])).length⟩) := by
  rw [Properties.read_append noReturn closed]
  refine ⟨?_, ?_, ?_⟩
  · intro left right reads reads'
    rw [reads, reads']
    exact ⟨left.override right, rfl, rfl⟩
  · intro fault refused
    rw [refused]
    rfl
  · intro left fault reads refused
    rw [reads, refused]
    rfl

/-- A comment that ends in a backslash leaves no line open.  The first text gives way to the
second for the key of both, and a fault of the second is reported four lines further on. -/
theorem ofProperties_read_append_comment :
    (∃ both, Properties.read ("a=1\nb=\\\n 2\n# c\\".toList ++ '\n' :: "a=3".toList) = .ok both ∧
      ofProperties both = (⟨⟨[("a", "1"), ("b", "2")], by decide⟩⟩ : Store).override
        ⟨⟨[("a", "3")], by decide⟩⟩) ∧
    Properties.read ("a=\\u".toList ++ '\n' :: "b=\\u".toList) = .error ⟨1⟩ ∧
    Properties.read ("a=1\nb=\\\n 2\n# c\\".toList ++ '\n' :: "c=1\nd=\\u00".toList) =
      .error ⟨6⟩ := by
  refine ⟨?_, ?_, ?_⟩
  · exact (ofProperties_read_append (by decide) (by decide) _).1 _ _ (by decide +kernel)
      (by decide +kernel)
  · exact (ofProperties_read_append (by decide) (by decide) _).2.1 _ (by decide +kernel)
  · have first : Properties.read "a=1\nb=\\\n 2\n# c\\".toList =
        .ok ⟨[("a", "1"), ("b", "2")], by decide⟩ := by decide +kernel
    exact (ofProperties_read_append (by decide) (by decide) _).2.2 _ ⟨2⟩ first
      (by decide +kernel)

end Settings.Store
