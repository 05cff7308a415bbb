import Settings.Proofs.Splitting.Correspondence

/-!
Delimited texts with a delimiter between them.

A delimiter outside of a quoted run cuts, so the segments of the joined text are those of the
first text and those of the second.  All of them count as they did before if an element ends
the first text and an element begins the second: the elements of the texts are joined.  Only a
run that the first text leaves open reaches into the second.
-/

namespace Settings.Text

/-- Of the characters other than white space, the first one is not the delimiter. -/
def BeginsElement (delimiter : Char) (text : List Char) : Prop :=
  ∃ c, (trimStart text).head? = some c ∧ c ≠ delimiter

/-- Of the characters other than white space, the last one is not the delimiter. -/
def EndsElement (delimiter : Char) (text : List Char) : Prop :=
  ∃ c, (trimEnd text).getLast? = some c ∧ c ≠ delimiter

section

variable {delimiter : Char} {text front back last first : List Char}
  {pieces others elements : List (List Char)}

/-! ### Segments -/

/-- A delimiter outside of a run cuts the text. -/
theorem cut_append_delimiter (notQuote : delimiter ≠ quote) {mode : Mode}
    (outside : mode.behind delimiter front ≠ .run) (back : List Char) :
    cut delimiter mode (front ++ delimiter :: back) =
      cut delimiter mode front ++ cut delimiter .lead back := by
  induction front generalizing mode with
  | nil =>
      have leads : mode.next delimiter delimiter = .lead := by
        cases mode with
        | run => exact absurd rfl outside
        | lead | close | bare => simp [Mode.next, notQuote]
      have cuts : cut delimiter mode (delimiter :: back) = [] :: cut delimiter .lead back := by
        rw [cut, if_pos ⟨rfl, outside⟩, leads]
      exact cuts
  | cons c front ih =>
      obtain ⟨piece, others, pieces⟩ :=
        List.exists_cons_of_ne_nil (@cut_ne_nil delimiter (mode.next delimiter c) front)
      rw [List.cons_append, cut, cut, ih outside, pieces]
      split <;> rfl

/-- A text ends inside of a run if and only if that run is not closed. -/
theorem exists_unclosed_iff (notQuote : delimiter ≠ quote) :
    (∃ position, Unclosed delimiter text position) ↔ Mode.lead.behind delimiter text = .run := by
  constructor
  · rintro ⟨position, unclosed⟩
    exact unclosed.behind
  · intro inside
    have scans := scansAs notQuote text 0
    cases result : tokens delimiter 0 text with
    | error fault =>
        rw [result] at scans
        obtain ⟨position, -, unclosed, -⟩ := scans
        exact ⟨position, unclosed⟩
    | ok tokens =>
        rw [result] at scans
        exact absurd inside scans.2

theorem segments_append_delimiter (notQuote : delimiter ≠ quote)
    (closed : ∀ position, ¬Unclosed delimiter front position) (back : List Char) :
    segments delimiter (front ++ delimiter :: back) =
      segments delimiter front ++ segments delimiter back :=
  cut_append_delimiter notQuote
    (fun inside => not_exists.2 closed ((exists_unclosed_iff notQuote).2 inside)) back

/-! ### Segments that count -/

/-- An element that begins the text makes the first segment count. -/
theorem BeginsElement.exists_segments (solid : isSpace delimiter = false)
    (begins : BeginsElement delimiter text) :
    ∃ first others, segments delimiter text = first :: others ∧ isBlank first = false := by
  obtain ⟨first, others, pieces⟩ := List.exists_cons_of_ne_nil (@cut_ne_nil delimiter .lead text)
  refine ⟨first, others, pieces, ?_⟩
  obtain ⟨c, starts, other⟩ := begins
  have whole := @intercalate_cut delimiter .lead text
  rw [pieces] at whole
  rw [← Bool.not_eq_true]
  intro blank
  cases others with
  | nil =>
      rw [List.intercalate_singleton] at whole
      rw [← whole, trimStart_eq_nil_iff.2 blank] at starts
      cases starts
  | cons next others =>
      rw [List.intercalate_cons_cons, List.append_assoc, List.singleton_append] at whole
      rw [← whole, trimStart_blank_cons blank solid] at starts
      exact other (Option.some.inj starts).symm

theorem exists_intercalate_concat (piece : List Char) (pieces : List (List Char))
    (last : List Char) :
    ∃ front,
      [delimiter].intercalate (piece :: (pieces ++ [last])) = front ++ delimiter :: last := by
  induction pieces generalizing piece with
  | nil => exact ⟨piece, by simp [List.intercalate_cons_cons]⟩
  | cons next pieces ih =>
      obtain ⟨front, whole⟩ := ih next
      refine ⟨piece ++ delimiter :: front, ?_⟩
      rw [List.cons_append, List.intercalate_cons_cons, whole]
      simp

/-- An element that ends the text makes the last segment count. -/
theorem EndsElement.exists_segments (solid : isSpace delimiter = false)
    (ends : EndsElement delimiter text) :
    ∃ front last, segments delimiter text = front ++ [last] ∧ isBlank last = false := by
  obtain ⟨pieces, last, split⟩ : ∃ pieces last, segments delimiter text = pieces ++ [last] :=
    ⟨_, _, (List.dropLast_concat_getLast (cut_ne_nil .lead text)).symm⟩
  refine ⟨pieces, last, split, ?_⟩
  obtain ⟨c, behind, other⟩ := ends
  have whole : [delimiter].intercalate (pieces ++ [last]) = text := by
    rw [← split]
    exact intercalate_cut .lead text
  rw [← Bool.not_eq_true]
  intro blank
  cases pieces with
  | nil =>
      have nothing := trimEnd_append_of_isBlank blank []
      rw [List.nil_append, List.intercalate_singleton] at whole
      rw [List.nil_append, whole] at nothing
      rw [nothing] at behind
      cases behind
  | cons piece pieces =>
      obtain ⟨before, parts⟩ := @exists_intercalate_concat delimiter piece pieces last
      have trimmed := trimEnd_append_of_isBlank blank (before ++ [delimiter])
      have kept : trimEnd (before ++ [delimiter]) = before ++ [delimiter] :=
        trimEnd_of_getLast? (by simpa using solid)
      rw [List.append_assoc, List.singleton_append, ← parts, ← List.cons_append, whole, kept]
        at trimmed
      rw [trimmed, List.getLast?_concat] at behind
      exact other (Option.some.inj behind).symm

theorem dropBlankLast_concat (solid : isBlank last = false) (pieces : List (List Char)) :
    dropBlankLast (pieces ++ [last]) = pieces ++ [last] := by
  induction pieces with
  | nil => rw [List.nil_append, dropBlankLast, if_neg (by simp [solid])]
  | cons piece pieces ih => rw [List.cons_append, dropBlankLast_cons (by simp), ih]

theorem dropBlankLast_append (more : others ≠ []) (pieces : List (List Char)) :
    dropBlankLast (pieces ++ others) = pieces ++ dropBlankLast others := by
  induction pieces with
  | nil => rfl
  | cons piece pieces ih => rw [List.cons_append, dropBlankLast_cons (by simp [more]), ih,
      List.cons_append]

/-- Segments count together as they count by themselves if those that meet are not blank. -/
theorem counted_append (solidLast : isBlank last = false) (solidFirst : isBlank first = false) :
    counted ((pieces ++ [last]) ++ first :: others) =
      counted (pieces ++ [last]) ++ counted (first :: others) := by
  have kept : dropBlankFirst (first :: others) = first :: others := by
    rw [dropBlankFirst, if_neg (by simp [solidFirst])]
  have begins : ∃ rest, dropBlankFirst (pieces ++ [last]) = rest ++ [last] ∧
      dropBlankFirst ((pieces ++ [last]) ++ first :: others) =
        (rest ++ [last]) ++ first :: others := by
    cases pieces with
    | nil =>
        refine ⟨[], ?_, ?_⟩
        · rw [List.nil_append, dropBlankFirst, if_neg (by simp [solidLast])]
        · rw [List.nil_append, List.cons_append, dropBlankFirst, if_neg (by simp [solidLast])]
    | cons piece pieces =>
        rw [List.cons_append, List.cons_append, dropBlankFirst, dropBlankFirst]
        split
        · exact ⟨pieces, rfl, rfl⟩
        · exact ⟨piece :: pieces, rfl, rfl⟩
  obtain ⟨rest, alone, together⟩ := begins
  rw [counted, counted, counted, alone, together, kept, dropBlankLast_concat solidLast,
    dropBlankLast_append (by simp)]

/-! ### Splitting -/

theorem not_unclosed_of_split_eq_ok (notQuote : delimiter ≠ quote)
    (read : split delimiter text = .ok elements) (position : Nat) :
    ¬Unclosed delimiter text position := by
  intro unclosed
  obtain ⟨segment, listed, refused⟩ := unclosed.exists_not_accepted notQuote
  exact refused ((exists_split_eq_ok_iff notQuote).1 ⟨elements, read⟩ segment listed)

/-- Texts that are split are split to the elements of both when they are joined. -/
theorem split_append_delimiter (notQuote : delimiter ≠ quote) (solid : isSpace delimiter = false)
    (ends : EndsElement delimiter front) (begins : BeginsElement delimiter back)
    {frontElements backElements : List (List Char)}
    (frontRead : split delimiter front = .ok frontElements)
    (backRead : split delimiter back = .ok backElements) :
    split delimiter (front ++ delimiter :: back) = .ok (frontElements ++ backElements) := by
  have joined := segments_append_delimiter notQuote
    (not_unclosed_of_split_eq_ok notQuote frontRead) back
  obtain ⟨pieces, last, frontPieces, solidLast⟩ := ends.exists_segments solid
  obtain ⟨first, others, backPieces, solidFirst⟩ := begins.exists_segments solid
  have counts := @counted_append last first pieces others solidLast solidFirst
  rw [← frontPieces, ← backPieces, ← joined] at counts
  cases (split_eq_iff notQuote).1 frontRead with
  | elements frontAccepted frontStands =>
      cases (split_eq_iff notQuote).1 backRead with
      | elements backAccepted backStands =>
          rw [split_eq_iff notQuote]
          refine .elements ?_ ?_
          · rw [joined, List.forall_mem_append]
            exact ⟨frontAccepted, backAccepted⟩
          · rw [counts]
            exact List.rel_append frontStands backStands

/-- A joined text is split just when both of its parts are, unless a run of the first part is not
closed. -/
theorem exists_split_append_delimiter_iff (notQuote : delimiter ≠ quote)
    (closed : ∀ position, ¬Unclosed delimiter front position) :
    (∃ elements, split delimiter (front ++ delimiter :: back) = .ok elements) ↔
      (∃ elements, split delimiter front = .ok elements) ∧
        ∃ elements, split delimiter back = .ok elements := by
  rw [exists_split_eq_ok_iff notQuote, exists_split_eq_ok_iff notQuote,
    exists_split_eq_ok_iff notQuote, segments_append_delimiter notQuote closed,
    List.forall_mem_append]

end

end Settings.Text
