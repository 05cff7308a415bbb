import Settings.Proofs.Properties.Layout

/-!
Folding the lines of properties.

A natural line that belongs to a logical line can be cut in two: a backslash continues its first
part, and the second part stands on the next line, behind any blanks.  The cut may be anywhere,
in a key, in an escape or at either end of the line, as long as it does not fall behind an odd
number of backslashes, where the new one would be escaped, nor before a blank, which would be
lost.  What is read stays the same, but for the numbers of the lines behind the cut.
-/

namespace Settings.Properties

/-! ### Where a natural line stands -/

/-- The natural line stands in a text behind `front` and before `back`, which has the natural lines
that follow it. -/
structure IsLine (front line back : List Char) (after : List (List Char)) : Prop where
  begins : front = [] ∨ front.getLast? = some '\n'
  noFeed : '\n' ∉ line
  ends : EndsLine line back after

/-- A text that is not empty begins with a natural line. -/
theorem exists_endsLine {text : List Char} (some : text ≠ []) :
    ∃ line back after, text = line ++ back ∧ '\n' ∉ line ∧ EndsLine line back after := by
  induction text with
  | nil => exact absurd rfl some
  | cons c text ih =>
      by_cases feed : c = '\n'
      · subst feed
        exact ⟨[], '\n' :: text, _, rfl, List.not_mem_nil, .feed (by simp) text⟩
      cases text with
      | nil => exact ⟨[c], [], [], rfl, by simpa using Ne.symm feed, .last (List.cons_ne_nil c [])⟩
      | cons d text =>
          by_cases carriage : c = '\r' ∧ d = '\n'
          · obtain ⟨rfl, rfl⟩ := carriage
            exact ⟨[], '\r' :: '\n' :: text, _, rfl, List.not_mem_nil, .carriage text⟩
          obtain ⟨line, back, after, whole, noFeed, ends⟩ := ih (List.cons_ne_nil d text)
          refine ⟨c :: line, back, after, by rw [whole, List.cons_append], ?_, ?_⟩
          · exact List.not_mem_cons_of_ne_of_not_mem (Ne.symm feed) noFeed
          · cases ends with
            | last => exact .last (List.cons_ne_nil c line)
            | carriage rest => exact .carriage rest
            | feed noReturn rest =>
                refine .feed ?_ rest
                cases line with
                | nil =>
                    intro same
                    exact carriage ⟨Option.some.inj same, (List.cons.inj whole).1⟩
                | cons e line => exact noReturn

theorem naturalLines_append_front {front : List Char}
    (begins : front = [] ∨ front.getLast? = some '\n') (rest : List Char) :
    naturalLines (front ++ rest) = naturalLines front ++ naturalLines rest := by
  rcases begins with rfl | last
  · rfl
  · obtain ⟨line, rfl⟩ := List.getLast?_eq_some_iff.1 last
    have split : (line ++ ['\n']) ++ rest = line ++ '\n' :: rest := by simp
    rw [split, naturalLines_append_feed]

theorem IsLine.naturalLines_eq {front line back : List Char} {after : List (List Char)}
    (isLine : IsLine front line back after) :
    naturalLines (front ++ (line ++ back)) = naturalLines front ++ line :: after := by
  rw [naturalLines_append_front isLine.begins, isLine.ends.naturalLines_append isLine.noFeed]

/-- Where natural lines follow there is the end of a line, with any text behind it. -/
theorem EndsLine.exists_lineEnd {line back : List Char} {after : List (List Char)}
    (ends : EndsLine line back after) (follow : after ≠ []) :
    ∃ ending rest, LineEnd ending ∧ back = ending ++ rest ∧ after = naturalLines rest ∧
      ∀ other, EndsLine line (ending ++ other) (naturalLines other) := by
  cases ends with
  | last => exact absurd rfl follow
  | feed noReturn rest => exact ⟨['\n'], rest, .feed, rfl, rfl, .feed noReturn⟩
  | carriage rest => exact ⟨['\r', '\n'], rest, .carriage, rfl, rfl, .carriage⟩

theorem LineEnd.getLast? {ending : List Char} (ends : LineEnd ending) :
    ending.getLast? = some '\n' := by
  cases ends with
  | feed => rfl
  | carriage => rfl

/-- Every natural line stands somewhere in the text. -/
theorem exists_isLine {text line : List Char} {before after : List (List Char)}
    (lines : naturalLines text = before ++ line :: after) :
    ∃ front back, text = front ++ (line ++ back) ∧ naturalLines front = before ∧
      IsLine front line back after := by
  induction before generalizing text with
  | nil =>
      have some : text ≠ [] := fun empty => by
        rw [empty] at lines
        cases lines
      obtain ⟨first, back, others, rfl, noFeed, ends⟩ := exists_endsLine some
      rw [ends.naturalLines_append noFeed] at lines
      obtain ⟨rfl, rfl⟩ := List.cons.inj lines
      exact ⟨[], back, rfl, rfl, .inl rfl, noFeed, ends⟩
  | cons earlier before ih =>
      have some : text ≠ [] := fun empty => by
        rw [empty] at lines
        cases lines
      obtain ⟨first, behind, others, rfl, noFeed, ends⟩ := exists_endsLine some
      rw [ends.naturalLines_append noFeed] at lines
      obtain ⟨rfl, follow⟩ := List.cons.inj lines
      obtain ⟨ending, rest, ending', rfl, rfl, anywhere⟩ :=
        ends.exists_lineEnd (by simp [follow])
      obtain ⟨front, back, rfl, own, isLine⟩ := ih follow
      refine ⟨first ++ (ending ++ front), back, by simp, ?_, ?_, isLine.noFeed, isLine.ends⟩
      · rw [(anywhere front).naturalLines_append noFeed, own]
      · refine .inr ?_
        rw [List.getLast?_append, List.getLast?_append, ending'.getLast?]
        rcases isLine.begins with rfl | last
        · rfl
        · rw [last]
          rfl

/-! ### Cutting a line -/

/-- A further backslash turns an even number of backslashes into an odd one. -/
theorem isContinued_append_backslash {text : List Char} (even : isContinued text = false) :
    isContinued (text ++ ['\\']) = true := by
  rw [isContinued_append even]
  rfl

theorem skipBlanks_append_of_head {second : List Char}
    (noBlank : ∀ c ∈ second.head?, isBlank c = false) (first : List Char) :
    skipBlanks (first ++ second) = skipBlanks first ++ second := by
  have kept : skipBlanks second = second := by
    cases second with
    | nil => rfl
    | cons c second => exact skipBlanks_cons (noBlank c rfl) second
  rw [skipBlanks, List.dropWhile_append]
  split
  · next empty =>
      rw [skipBlanks, List.isEmpty_iff.1 empty]
      exact kept
  · rfl

/-- The numbers of lines where one more natural line stands behind a line. -/
def numberBehind (line number : Nat) : Nat := if number ≤ line then number else number + 1

theorem logicalLines_numberBehind {pending : Option LogicalLine} {number : Nat}
    (earlier : ∀ line ∈ pending, line.number ≤ number) (lines : List (List Char)) :
    logicalLines (number + 1 + 1) pending lines =
      (logicalLines (number + 1) pending lines).map (.renumber (numberBehind number)) := by
  have later : ∀ {other : Nat}, number < other → numberBehind number other = other + 1 :=
    fun above => if_neg (Nat.not_le_of_lt above)
  have same : pending.map (LogicalLine.renumber (numberBehind number)) = pending := by
    cases pending with
    | none => rfl
    | some line =>
        have kept : numberBehind number line.number = line.number := if_pos (earlier line rfl)
        simp [LogicalLine.renumber, kept]
  have follows : ∀ other, number + 1 ≤ other →
      numberBehind number (other + 1) = numberBehind number other + 1 := by
    intro other above
    rw [later above, later (Nat.lt_succ_of_lt above)]
  have renumbered := logicalLines_renumber follows pending lines
  rwa [later (Nat.lt_succ_self number), same] at renumbered

/-- The first part of a line that counts is neither blank nor a comment, for if nothing stands in
front of the cut the new backslash does. -/
theorem counts_append_backslash {first second : List Char} {pending : Option LogicalLine}
    (belongs : pending.isSome = true ∨ isIgnored (skipBlanks (first ++ second)) = false)
    (noBlank : ∀ c ∈ second.head?, isBlank c = false) :
    (pending.isNone && isIgnored (skipBlanks (first ++ ['\\']))) = false := by
  have front : skipBlanks (first ++ ['\\']) = skipBlanks first ++ ['\\'] :=
    skipBlanks_append_of_head (by simp [isBlank]) first
  rcases belongs with opened | counted
  · rw [Option.isNone_eq_false_iff.2 opened, Bool.false_and]
  · rw [skipBlanks_append_of_head noBlank] at counted
    rw [front]
    cases lead : skipBlanks first with
    | nil => exact Bool.and_false _
    | cons c rest =>
        rw [lead] at counted
        exact Bool.and_eq_false_iff.2 (.inr counted)

/-- A line that is cut in two gives the same logical lines, with one more number in use. -/
theorem logicalLines_cut {first second blanks : List Char} {pending : Option LogicalLine}
    {number : Nat} (earlier : ∀ line ∈ pending, line.number < number)
    (belongs : pending.isSome = true ∨ isIgnored (skipBlanks (first ++ second)) = false)
    (even : isContinued first = false) (noBlank : ∀ c ∈ second.head?, isBlank c = false)
    (all : Blanks blanks) (after : List (List Char)) :
    logicalLines number pending ((first ++ ['\\']) :: (blanks ++ second) :: after) =
      (logicalLines number pending ((first ++ second) :: after)).map
        (.renumber (numberBehind number)) := by
  have whole : skipBlanks (first ++ second) = skipBlanks first ++ second :=
    skipBlanks_append_of_head noBlank first
  have front : skipBlanks (first ++ ['\\']) = skipBlanks first ++ ['\\'] :=
    skipBlanks_append_of_head (by simp [isBlank]) first
  have back : skipBlanks (blanks ++ second) = second := by
    rw [skipBlanks_append_of_head noBlank, skipBlanks_of_blanks all, List.nil_append]
  have countsWhole : (pending.isNone && isIgnored (skipBlanks (first ++ second))) = false := by
    rcases belongs with opened | counted
    · rw [Option.isNone_eq_false_iff.2 opened, Bool.false_and]
    · rw [counted, Bool.and_false]
  have begins : (pending.getD ⟨number, []⟩).number ≤ number := by
    cases pending with
    | none => exact Nat.le_refl number
    | some line => exact Nat.le_of_lt (earlier line rfl)
  have evenBlanks : isContinued blanks = false := by
    rw [← isContinued_skipBlanks, skipBlanks_of_blanks all]
    rfl
  have second' : isContinued (blanks ++ second) = isContinued second :=
    isContinued_append evenBlanks second
  rw [logicalLines_of_continued (counts_append_backslash belongs noBlank)
      (isContinued_append_backslash even), front,
    List.dropLast_concat]
  cases continued : isContinued second with
  | true =>
      have some : second ≠ [] := fun empty => by
        rw [empty] at continued
        cases continued
      rw [logicalLines_of_continued rfl (second'.trans continued), back, Option.getD_some,
        logicalLines_of_continued countsWhole ((isContinued_append even second).trans continued),
        whole, List.dropLast_append_of_ne_nil some, List.append_assoc]
      exact logicalLines_numberBehind (by simpa using begins) after
  | false =>
      have kept : numberBehind number (pending.getD ⟨number, []⟩).number =
          (pending.getD ⟨number, []⟩).number := if_pos begins
      rw [logicalLines_of_complete rfl (second'.trans continued), back, Option.getD_some,
        logicalLines_of_complete countsWhole ((isContinued_append even second).trans continued),
        whole, List.append_assoc, List.map_cons, LogicalLine.renumber, kept]
      exact congrArg _ (logicalLines_numberBehind (by simp) after)

/-! ### Folded texts -/

/-- What stands behind the cut begins with a line of its own, unless nothing stands there. -/
theorem EndsLine.naturalLines_cut {first second back blanks : List Char}
    {after : List (List Char)} (ends : EndsLine (first ++ second) back after)
    (noFeed : '\n' ∉ first ++ second) (all : Blanks blanks) :
    naturalLines (blanks ++ (second ++ back)) = (blanks ++ second) :: after ∨
      blanks ++ second = [] ∧ after = [] ∧ naturalLines (blanks ++ (second ++ back)) = [] := by
  have noFeed : '\n' ∉ blanks ++ second := by
    intro member
    rcases List.mem_append.1 member with inside | inside
    · exact (ne_of_isBlank (all _ inside)).1 rfl
    · exact noFeed (List.mem_append_right _ inside)
  rw [← List.append_assoc]
  cases ends with
  | last =>
      by_cases empty : blanks ++ second = []
      · exact .inr ⟨empty, rfl, by rw [empty]; rfl⟩
      · exact .inl ((EndsLine.last empty).naturalLines_append noFeed)
  | carriage rest => exact .inl ((EndsLine.carriage rest).naturalLines_append noFeed)
  | feed noReturn rest =>
      refine .inl ((EndsLine.feed ?_ rest).naturalLines_append noFeed)
      intro last
      rw [List.getLast?_append] at last noReturn
      cases final : second.getLast? with
      | some c =>
          rw [final] at last noReturn
          exact noReturn last
      | none =>
          rw [final] at last
          exact (ne_of_isBlank (all _ (List.mem_of_getLast? last))).2.1 rfl

/-- An empty natural line at the end completes a line that is pending, as the end itself does. -/
theorem logicalLines_nil_line (number : Nat) (line : LogicalLine) :
    logicalLines number (some line) [[]] = logicalLines number (some line) [] := by
  rw [logicalLines_of_complete rfl rfl]
  simp [logicalLines, skipBlanks]

/-- Folding a line that is not ignored changes nothing but the numbers of the lines behind. -/
theorem linesOf_fold {front first second back ending blanks : List Char}
    {after : List (List Char)} (isLine : IsLine front (first ++ second) back after)
    (belongs : leavesOpen (naturalLines front) = true ∨
      isIgnored (skipBlanks (first ++ second)) = false)
    (even : isContinued first = false) (noBlank : ∀ c ∈ second.head?, isBlank c = false)
    (ends : LineEnd ending) (all : Blanks blanks) :
    linesOf (front ++ (first ++ '\\' :: (ending ++ (blanks ++ (second ++ back))))) =
      (linesOf (front ++ (first ++ second ++ back))).map
        (.renumber (numberBehind ((naturalLines front).length + 1))) := by
  have noFeed : '\n' ∉ first ++ ['\\'] := by
    intro member
    rcases List.mem_append.1 member with inside | inside
    · exact isLine.noFeed (List.mem_append_left _ inside)
    · cases List.mem_singleton.1 inside
  have behind : naturalLines (first ++ '\\' :: (ending ++ (blanks ++ (second ++ back)))) =
      (first ++ ['\\']) :: naturalLines (blanks ++ (second ++ back)) := by
    have split : first ++ '\\' :: (ending ++ (blanks ++ (second ++ back))) =
        (first ++ ['\\']) ++ (ending ++ (blanks ++ (second ++ back))) := by simp
    rw [split]
    exact (ends.endsLine (by simp) _).naturalLines_append noFeed
  rw [linesOf, linesOf, isLine.naturalLines_eq, naturalLines_append_front isLine.begins, behind]
  obtain ⟨complete, opened, splits, opens, above, earlier⟩ :=
    exists_logicalLines_append (naturalLines front) 1 none (by simp)
  have belongs : opened.isSome = true ∨ isIgnored (skipBlanks (first ++ second)) = false :=
    belongs.imp_left opens.trans
  have kept : complete.map (.renumber (numberBehind (1 + (naturalLines front).length))) =
      complete := by
    refine (List.map_congr_left fun line listed => ?_).trans (List.map_id _)
    have same : numberBehind (1 + (naturalLines front).length) line.number = line.number :=
      if_pos (Nat.le_of_lt (above line listed))
    rw [LogicalLine.renumber, same]
    rfl
  have cut := logicalLines_cut earlier belongs even noBlank all after
  rw [splits, splits, Nat.add_comm (naturalLines front).length, List.map_append, kept, ← cut]
  rcases isLine.ends.naturalLines_cut isLine.noFeed all with line | ⟨empty, nothing, lines⟩
  · rw [line]
  · have counts := counts_append_backslash belongs noBlank
    have continued := isContinued_append_backslash even
    rw [lines, empty, nothing, logicalLines_of_continued counts continued,
      logicalLines_of_continued counts continued, logicalLines_nil_line]

/-- A natural line that belongs to a logical line may be folded anywhere, but behind an odd number
of backslashes or before a blank.  The text is read as before, and refused only if it was, with
the numbers of later lines raised by one. -/
theorem read_fold {text first second : List Char} {before after : List (List Char)}
    (lines : naturalLines text = before ++ (first ++ second) :: after)
    (belongs : leavesOpen before = true ∨ isIgnored (skipBlanks (first ++ second)) = false)
    (even : isContinued first = false) (noBlank : ∀ c ∈ second.head?, isBlank c = false) :
    ∃ front back, text = front ++ (first ++ second ++ back) ∧ naturalLines front = before ∧
      IsLine front (first ++ second) back after ∧
      ∀ ending blanks, LineEnd ending → Blanks blanks →
        read (front ++ (first ++ '\\' :: (ending ++ (blanks ++ (second ++ back))))) =
          (read text).mapError (.renumber (numberBehind (before.length + 1))) := by
  obtain ⟨front, back, whole, own, isLine⟩ := exists_isLine lines
  refine ⟨front, back, whole, own, isLine, fun ending blanks ends all => ?_⟩
  have folded := linesOf_fold isLine (own.symm ▸ belongs) even noBlank ends all
  rw [read_eq_map_entries, read_eq_map_entries, entries, entries, folded, ← whole,
    mapM_readEntry_renumber, own]
  cases (linesOf text).mapM readEntry with
  | ok found => rfl
  | error fault => rfl

/-- A line that is continued is cut within an escape of its key. -/
theorem read_fold_escape :
    read "k\\u0\\\r\n\t062 = \\\n  x#y\nz=1\n".toList =
      .ok ⟨[("kb", "x#y"), ("z", "1")], by decide⟩ := by
  have reads : read "k\\u0062 = \\\n  x#y\nz=1\n".toList =
      .ok ⟨[("kb", "x#y"), ("z", "1")], by decide⟩ := by decide +kernel
  have lines : naturalLines "k\\u0062 = \\\n  x#y\nz=1\n".toList =
      [] ++ ("k\\u0".toList ++ "062 = \\".toList) :: ["  x#y".toList, "z=1".toList] := by decide
  obtain ⟨front, back, whole, own, -, folded⟩ :=
    read_fold lines (.inr (by decide)) (by decide) (by simp [isBlank])
  obtain rfl : front = [] := by
    cases front with
    | nil => rfl
    | cons c rest => exact absurd own (naturalLines_ne_nil c rest)
  have behind : "\n  x#y\nz=1\n".toList = back :=
    @List.append_cancel_left _ "k\\u0062 = \\".toList _ _ whole
  have result := folded ['\r', '\n'] ['\t'] .carriage (by decide)
  rw [reads, ← behind] at result
  exact result

end Settings.Properties
