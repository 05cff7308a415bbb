import Mathlib.Data.List.Forall2
import Mathlib.Data.List.TakeWhile
import Settings.Proofs.Splitting

/-!
The segments of a delimited text, and what each of them stands for.

A text is cut at every delimiter outside of a quoted run.  Whether a character is inside
of a run is decided by an automaton that reads one character after the other
(`Mode.next`), so the segments are described without the scanner of `Settings.Text.Split`
and its tokens.  A segment is accepted in three forms (`StandsFor`).  Two things can be
wrong with a text: a run is not closed (`Unclosed`), or something follows a closed run
(`TextAfterRun`), and the position of either is determined by the text.
-/

namespace Settings.Text

/-- Where a character of a delimited text stands. -/
inductive Mode where
  /-- Its segment holds nothing but white space and closed runs so far. -/
  | lead
  /-- It is inside of a quoted run. -/
  | run
  /-- It follows a quote inside of a run, which closes the run unless it is doubled. -/
  | close
  /-- Its segment holds some other character already. -/
  | bare
deriving Repr, DecidableEq

/-- Where the next character stands. -/
def Mode.next (delimiter c : Char) : Mode → Mode
  | .run => if c = quote then .close else .run
  | .bare => if c = delimiter then .lead else .bare
  | .lead | .close =>
    if c = quote then .run else if c = delimiter ∨ isSpace c = true then .lead else .bare

/-- Where a character behind a text stands. -/
def Mode.behind (delimiter : Char) (mode : Mode) (text : List Char) : Mode :=
  text.foldl (fun mode c => mode.next delimiter c) mode

/-- The pieces of a text between the delimiters that are not inside of a quoted run. -/
def cut (delimiter : Char) : Mode → List Char → List (List Char)
  | _, [] => [[]]
  | mode, c :: rest =>
    let pieces := cut delimiter (mode.next delimiter c) rest
    if c = delimiter ∧ mode ≠ .run then [] :: pieces else pieces.modifyHead (c :: ·)

/-- The segments of a text. -/
def segments (delimiter : Char) (text : List Char) : List (List Char) :=
  cut delimiter .lead text

/-- The forms in which a segment is accepted, and the element that each stands for. -/
inductive StandsFor : List Char → List Char → Prop where
  | blank {segment : List Char} (blank : isBlank segment = true) : StandsFor segment []
  | quoted {before after : List Char} (content : List Char) (blankBefore : isBlank before = true)
      (blankAfter : isBlank after = true) : StandsFor (before ++ enquote content ++ after) content
  | bare {segment : List Char} {c : Char} (first : (trimStart segment).head? = some c)
      (opens : c ≠ quote) : StandsFor segment (trim segment)

/-- The segment is blank, a quoted run between white space, or unquoted. -/
def Accepted (segment : List Char) : Prop := ∃ element, StandsFor segment element

/-- The segments without a blank one at the start. -/
def dropBlankFirst : List (List Char) → List (List Char)
  | [] => []
  | first :: rest => if isBlank first then rest else first :: rest

/-- The segments without a blank one at the end. -/
def dropBlankLast : List (List Char) → List (List Char)
  | [] => []
  | [last] => if isBlank last then [] else [last]
  | segment :: next :: rest => segment :: dropBlankLast (next :: rest)

/-- The segments that stand for elements: all but a blank first one and a blank last one. -/
def counted (pieces : List (List Char)) : List (List Char) :=
  dropBlankLast (dropBlankFirst pieces)

/-- The run that opens at a position is not closed: every quote behind it is doubled. -/
inductive Unclosed (delimiter : Char) : List Char → Nat → Prop where
  | intro {front : List Char} (content : List Char)
      (opens : Mode.lead.behind delimiter front = .lead) :
      Unclosed delimiter (front ++ quote :: doubleQuotes content) front.length

/-- A closed run begins the segment, and something other than white space follows it at an
offset. -/
inductive Refused : List Char → Nat → Prop where
  | intro {before after rest : List Char} {c : Char} (content : List Char)
      (blankBefore : isBlank before = true) (blankAfter : isBlank after = true)
      (solid : isSpace c = false) (closes : after = [] → c ≠ quote) :
      Refused (before ++ enquote content ++ after ++ c :: rest)
        (before ++ enquote content ++ after).length

/-- The first of the segments that is not accepted is refused, and what follows its run stands
at a position, where the segments begin at a given one. -/
inductive TextAfterRun : Nat → List (List Char) → Nat → Prop where
  | here {segment : List Char} {offset : Nat} (start : Nat) (refused : Refused segment offset)
      (others : List (List Char)) : TextAfterRun start (segment :: others) (start + offset)
  | later {start position : Nat} {segment : List Char} {others : List (List Char)}
      (accepted : Accepted segment)
      (behind : TextAfterRun (start + segment.length + 1) others position) :
      TextAfterRun start (segment :: others) position

/-! ### Quoted runs -/

theorem readQuoted_doubleQuotes_eq_none (content : List Char) :
    readQuoted (doubleQuotes content) = none := by
  induction content with
  | nil => rfl
  | cons c content ih =>
      by_cases same : c = quote
      · subst same
        simp [doubleQuotes, readQuoted, ih]
      · cases tail : doubleQuotes content with
        | nil => simp [doubleQuotes, same, tail, readQuoted]
        | cons next more =>
            rw [tail] at ih
            simp [doubleQuotes, same, tail, readQuoted, ih]

/-- A run that is not closed holds nothing but doubled quotes and other characters. -/
theorem readQuoted_eq_none_iff {text : List Char} :
    readQuoted text = none ↔ ∃ content, text = doubleQuotes content := by
  constructor
  · intro unread
    fun_induction readQuoted text with
    | case1 => exact ⟨[], rfl⟩
    | case2 => cases unread
    | case3 c other => exact ⟨[c], by simp [doubleQuotes, other]⟩
    | case4 rest ih =>
        obtain ⟨content, rfl⟩ := ih (Option.map_eq_none_iff.1 unread)
        exact ⟨quote :: content, by simp [doubleQuotes]⟩
    | case5 => cases unread
    | case6 c next rest other ih =>
        obtain ⟨content, same⟩ := ih (Option.map_eq_none_iff.1 unread)
        exact ⟨c :: content, by simp [doubleQuotes, other, same]⟩
  · rintro ⟨content, rfl⟩
    exact readQuoted_doubleQuotes_eq_none content

/-- A run is closed by the first quote that is not doubled. -/
theorem readQuoted_eq_some_iff {text content after : List Char} :
    readQuoted text = some (content, after) ↔
      text = doubleQuotes content ++ quote :: after ∧ after.head? ≠ some quote := by
  constructor
  · intro read
    fun_induction readQuoted text generalizing content after with
    | case1 => cases read
    | case2 =>
        cases read
        exact ⟨rfl, by simp⟩
    | case3 => cases read
    | case4 rest ih =>
        obtain ⟨⟨inner, behind⟩, found, same⟩ := Option.map_eq_some_iff.1 read
        cases same
        obtain ⟨rfl, single⟩ := ih found
        exact ⟨by simp [doubleQuotes], single⟩
    | case5 next rest other =>
        cases read
        exact ⟨rfl, by simpa using other⟩
    | case6 c next rest other ih =>
        obtain ⟨⟨inner, behind⟩, found, same⟩ := Option.map_eq_some_iff.1 read
        cases same
        obtain ⟨same, single⟩ := ih found
        exact ⟨by simp [doubleQuotes, other, same], single⟩
  · rintro ⟨rfl, single⟩
    exact readQuoted_doubleQuotes content single

/-! ### Forms of segments -/

theorem trimStart_append_of_isBlank {blank : List Char} (isBlank : isBlank blank = true)
    (text : List Char) : trimStart (blank ++ text) = trimStart text := by
  rw [trimStart, List.dropWhile_append_of_pos]
  · rfl
  · simpa [Text.isBlank] using isBlank

theorem trimStart_eq_nil_iff {text : List Char} : trimStart text = [] ↔ isBlank text = true := by
  rw [trimStart, List.dropWhile_eq_nil_iff, isBlank, List.all_eq_true]

theorem trimStart_blank_cons {blank : List Char} (isBlank : isBlank blank = true) {c : Char}
    (solid : isSpace c = false) (rest : List Char) :
    trimStart (blank ++ c :: rest) = c :: rest := by
  rw [trimStart_append_of_isBlank isBlank, trimStart_cons_of_not_isSpace solid]

theorem isSpace_quote : isSpace quote = false := by decide

/-- White space in front of a run is all that is trimmed. -/
theorem trimStart_blank_enquote {blank : List Char} (isBlank : isBlank blank = true)
    (content after : List Char) :
    trimStart (blank ++ enquote content ++ after) =
      quote :: (doubleQuotes content ++ quote :: after) := by
  have form : blank ++ enquote content ++ after =
      blank ++ quote :: (doubleQuotes content ++ quote :: after) := by simp [enquote]
  rw [form, trimStart_blank_cons isBlank isSpace_quote]

/-- White space, a run and the text behind it make up a text in one way only. -/
theorem enquote_append_inj {before before' content content' after after' : List Char}
    (blank : isBlank before = true) (blank' : isBlank before' = true)
    (single : after.head? ≠ some quote) (single' : after'.head? ≠ some quote)
    (same : before ++ enquote content ++ after = before' ++ enquote content' ++ after') :
    before = before' ∧ content = content' ∧ after = after' := by
  have starts := congrArg trimStart same
  rw [trimStart_blank_enquote blank, trimStart_blank_enquote blank'] at starts
  have reads := congrArg readQuoted (List.cons.inj starts).2
  rw [readQuoted_doubleQuotes content single, readQuoted_doubleQuotes content' single'] at reads
  cases reads
  rw [List.append_assoc, List.append_assoc] at same
  exact ⟨List.append_cancel_right same, rfl, rfl⟩

theorem head?_ne_quote_of_isBlank {text : List Char} (blank : isBlank text = true) :
    text.head? ≠ some quote := by
  intro head
  have space := List.all_eq_true.1 blank quote (List.mem_of_head? head)
  rw [isSpace_quote] at space
  cases space

theorem head?_append_cons_ne_quote {after rest : List Char} {c : Char}
    (blank : isBlank after = true) (closes : after = [] → c ≠ quote) :
    (after ++ c :: rest).head? ≠ some quote := by
  cases after with
  | nil => simpa using closes rfl
  | cons d after =>
      have noQuote : some d ≠ some quote := head?_ne_quote_of_isBlank blank
      simpa using noQuote

/-! ### What a segment stands for -/

section

variable {segment rest element : List Char}

theorem standsFor_iff_of_nil (starts : trimStart segment = []) :
    StandsFor segment element ↔ element = [] := by
  constructor
  · intro stands
    cases stands with
    | blank => rfl
    | quoted content blankBefore _ =>
        rw [trimStart_blank_enquote blankBefore] at starts
        cases starts
    | bare first _ =>
        rw [starts] at first
        cases first
  · rintro rfl
    exact .blank (trimStart_eq_nil_iff.1 starts)

theorem standsFor_iff_of_quote (starts : trimStart segment = quote :: rest) :
    StandsFor segment element ↔
      ∃ after, readQuoted rest = some (element, after) ∧ isBlank after = true := by
  constructor
  · intro stands
    cases stands with
    | blank blank =>
        rw [trimStart_eq_nil_iff.2 blank] at starts
        cases starts
    | quoted content blankBefore blankAfter =>
        rw [trimStart_blank_enquote blankBefore] at starts
        cases starts
        exact ⟨_, readQuoted_doubleQuotes _ (head?_ne_quote_of_isBlank blankAfter), blankAfter⟩
    | bare first opens =>
        rw [starts] at first
        cases first
        exact absurd rfl opens
  · rintro ⟨after, read, blankAfter⟩
    have whole := List.takeWhile_append_dropWhile (p := isSpace) (l := segment)
    rw [← trimStart, starts, (readQuoted_eq_some_iff.1 read).1] at whole
    have form : segment = segment.takeWhile isSpace ++ enquote element ++ after := by
      simpa [enquote] using whole.symm
    rw [form]
    exact .quoted element List.all_takeWhile blankAfter

theorem standsFor_iff_of_bare {c : Char} (starts : trimStart segment = c :: rest)
    (opens : c ≠ quote) : StandsFor segment element ↔ element = trim segment := by
  constructor
  · intro stands
    cases stands with
    | blank blank =>
        rw [trimStart_eq_nil_iff.2 blank] at starts
        cases starts
    | quoted content blankBefore _ =>
        rw [trimStart_blank_enquote blankBefore] at starts
        cases starts
        exact absurd rfl opens
    | bare => rfl
  · rintro rfl
    exact .bare (congrArg List.head? starts) opens

theorem StandsFor.unique {other : List Char} (stands : StandsFor segment element)
    (stands' : StandsFor segment other) : element = other := by
  cases starts : trimStart segment with
  | nil =>
      rw [standsFor_iff_of_nil starts] at stands stands'
      rw [stands, stands']
  | cons c rest =>
      by_cases quoted : c = quote
      · subst quoted
        obtain ⟨after, read, -⟩ := (standsFor_iff_of_quote starts).1 stands
        obtain ⟨after', read', -⟩ := (standsFor_iff_of_quote starts).1 stands'
        rw [read] at read'
        exact (Prod.mk.inj (Option.some.inj read')).1
      · rw [standsFor_iff_of_bare starts quoted] at stands stands'
        rw [stands, stands']

/-- White space at the start has no part in whether a segment is accepted. -/
theorem Accepted.of_trimStart_eq {other : List Char} (accepted : Accepted segment)
    (same : trimStart segment = trimStart other) : Accepted other := by
  obtain ⟨element, stands⟩ := accepted
  cases starts : trimStart other with
  | nil => exact ⟨[], (standsFor_iff_of_nil starts).2 rfl⟩
  | cons c rest =>
      by_cases quoted : c = quote
      · subst quoted
        have found := (standsFor_iff_of_quote (same.trans starts)).1 stands
        exact ⟨element, (standsFor_iff_of_quote starts).2 found⟩
      · exact ⟨trim other, (standsFor_iff_of_bare starts quoted).2 rfl⟩

end

/-- A run in front of a segment is accepted only if the segment is blank. -/
theorem accepted_enquote_append_iff {content segment : List Char}
    (single : segment.head? ≠ some quote) :
    Accepted (enquote content ++ segment) ↔ isBlank segment = true := by
  have starts := @trimStart_blank_enquote [] rfl content segment
  have read := readQuoted_doubleQuotes content single
  constructor
  · rintro ⟨element, stands⟩
    obtain ⟨after, found, blank⟩ := (standsFor_iff_of_quote starts).1 stands
    rw [read] at found
    cases found
    exact blank
  · intro blank
    exact ⟨content, (standsFor_iff_of_quote starts).2 ⟨segment, read, blank⟩⟩

theorem not_accepted_unclosed (content : List Char) :
    ¬Accepted (quote :: doubleQuotes content) := by
  rintro ⟨element, stands⟩
  have starts := trimStart_cons_of_not_isSpace isSpace_quote (doubleQuotes content)
  obtain ⟨after, found, -⟩ := (standsFor_iff_of_quote starts).1 stands
  rw [readQuoted_doubleQuotes_eq_none] at found
  cases found

/-! ### Modes -/

section

variable {delimiter : Char}

theorem behind_append (mode : Mode) (front rest : List Char) :
    mode.behind delimiter (front ++ rest) = (mode.behind delimiter front).behind delimiter rest :=
  List.foldl_append

theorem behind_close_cons (c : Char) (rest : List Char) :
    Mode.close.behind delimiter (c :: rest) = Mode.lead.behind delimiter (c :: rest) :=
  rfl

theorem behind_run_doubleQuotes (content : List Char) :
    Mode.run.behind delimiter (doubleQuotes content) = .run := by
  induction content with
  | nil => rfl
  | cons c content ih =>
      rw [doubleQuotes]
      split
      · simpa [Mode.behind, Mode.next] using ih
      · next other => simpa [Mode.behind, Mode.next, other] using ih

theorem behind_enquote (content : List Char) :
    Mode.lead.behind delimiter (enquote content) = .close := by
  have opened : Mode.lead.behind delimiter [quote] = .run := by simp [Mode.behind, Mode.next]
  have closed : Mode.run.behind delimiter [quote] = .close := by simp [Mode.behind, Mode.next]
  rw [enquote, ← List.singleton_append, behind_append, behind_append, opened,
    behind_run_doubleQuotes, closed]

theorem behind_bare {text : List Char} (free : delimiter ∉ text) :
    Mode.bare.behind delimiter text = .bare := by
  induction text with
  | nil => rfl
  | cons c text ih =>
      have other : c ≠ delimiter := fun same => free (same ▸ List.mem_cons_self ..)
      have inside := ih fun member => free (List.mem_cons_of_mem _ member)
      simpa [Mode.behind, Mode.next, other] using inside

/-! ### Runs that are not closed -/

/-- Inside of a run that is not closed no segment goes on to lead. -/
theorem behind_run_of_append_eq {front rest content : List Char}
    (inside : front ++ rest = doubleQuotes content) :
    Mode.run.behind delimiter front ≠ .lead := by
  induction content generalizing front with
  | nil =>
      obtain ⟨rfl, -⟩ := List.append_eq_nil_iff.1 inside
      simp [Mode.behind]
  | cons c content ih =>
      cases front with
      | nil => simp [Mode.behind]
      | cons d front =>
          by_cases same : c = quote
          · rw [doubleQuotes, if_pos same] at inside
            cases front with
            | nil => simp [Mode.behind, Mode.next, (List.cons.inj inside).1]
            | cons e front =>
                obtain ⟨rfl, more⟩ := List.cons.inj inside
                obtain ⟨rfl, deeper⟩ := List.cons.inj more
                simpa [Mode.behind, Mode.next] using ih deeper
          · rw [doubleQuotes, if_neg same] at inside
            obtain ⟨rfl, deeper⟩ := List.cons.inj inside
            simpa [Mode.behind, Mode.next, same] using ih deeper

theorem behind_unclosed {front : List Char} (opens : Mode.lead.behind delimiter front = .lead)
    (inside : List Char) :
    Mode.lead.behind delimiter (front ++ quote :: inside) = Mode.run.behind delimiter inside := by
  have opened : Mode.lead.behind delimiter [quote] = .run := by simp [Mode.behind, Mode.next]
  rw [behind_append, opens, ← List.singleton_append, behind_append, opened]

theorem Unclosed.behind {text : List Char} {position : Nat}
    (unclosed : Unclosed delimiter text position) : Mode.lead.behind delimiter text = .run := by
  obtain ⟨content, opens⟩ := unclosed
  rw [behind_unclosed opens, behind_run_doubleQuotes]

/-- Of two runs that are not closed the second one would open inside of the first. -/
theorem length_le_of_unclosed {front front' content content' : List Char}
    (opens : Mode.lead.behind delimiter front = .lead)
    (opens' : Mode.lead.behind delimiter front' = .lead)
    (same : front ++ quote :: doubleQuotes content = front' ++ quote :: doubleQuotes content') :
    front'.length ≤ front.length := by
  -- If the second one opened later, its opening quote would stand inside of the first run.
  rcases List.append_eq_append_iff.1 same with ⟨more, rfl, behind⟩ | ⟨more, rfl, -⟩
  · cases more with
    | nil => simp
    | cons c more =>
        obtain ⟨rfl, inside⟩ := List.cons.inj behind
        rw [behind_unclosed opens] at opens'
        exact absurd opens' (behind_run_of_append_eq inside.symm)
  · simp

theorem Unclosed.unique {text : List Char} {position other : Nat}
    (unclosed : Unclosed delimiter text position) (unclosed' : Unclosed delimiter text other) :
    position = other := by
  obtain @⟨front, content, opens⟩ := unclosed
  generalize same : front ++ quote :: doubleQuotes content = text at unclosed'
  obtain ⟨content', opens'⟩ := unclosed'
  exact Nat.le_antisymm (length_le_of_unclosed opens' opens same.symm)
    (length_le_of_unclosed opens opens' same)

theorem Unclosed.append {rest : List Char} {position : Nat}
    (unclosed : Unclosed delimiter rest position) (front : List Char)
    (opens : ∀ lead more, rest = lead ++ quote :: more →
      Mode.lead.behind delimiter (front ++ lead) = Mode.lead.behind delimiter lead) :
    Unclosed delimiter (front ++ rest) (front.length + position) := by
  obtain ⟨content, leads⟩ := unclosed
  rw [← List.append_assoc, ← List.length_append]
  exact .intro content ((opens _ _ rfl).trans leads)

/-! ### Cutting -/

theorem cut_ne_nil (mode : Mode) (text : List Char) : cut delimiter mode text ≠ [] := by
  induction text generalizing mode with
  | nil => simp [cut]
  | cons c rest ih =>
      rw [cut]
      split
      · simp
      · simpa [List.modifyHead_eq_nil_iff] using ih _

/-- The segments and the delimiters between them make up the text. -/
theorem intercalate_cut (mode : Mode) (text : List Char) :
    [delimiter].intercalate (cut delimiter mode text) = text := by
  induction text generalizing mode with
  | nil => rfl
  | cons c rest ih =>
      have whole := ih (mode.next delimiter c)
      obtain ⟨piece, others, pieces⟩ := List.exists_cons_of_ne_nil (@cut_ne_nil delimiter _ rest)
      rw [pieces] at whole
      rw [cut, pieces]
      split
      · next cuts =>
          rw [List.intercalate_cons_cons, whole, cuts.1]
          rfl
      · cases others with
        | nil => simpa using whole
        | cons next more =>
            rw [List.intercalate_cons_cons] at whole
            simp [List.intercalate_cons_cons, ← whole]

theorem cut_delimiter (notQuote : delimiter ≠ quote) (rest : List Char) :
    cut delimiter .lead (delimiter :: rest) = [] :: cut delimiter .lead rest := by
  rw [cut, if_pos ⟨rfl, by decide⟩]
  simp [Mode.next, notQuote]

theorem cut_space {c : Char} (other : c ≠ delimiter) (opens : c ≠ quote) (space : isSpace c = true)
    (rest : List Char) :
    cut delimiter .lead (c :: rest) = (cut delimiter .lead rest).modifyHead (c :: ·) := by
  rw [cut, if_neg (by simp [other])]
  simp [Mode.next, opens, space]

theorem cut_close (text : List Char) : cut delimiter .close text = cut delimiter .lead text := by
  cases text with
  | nil => rfl
  | cons c rest => simp [cut, Mode.next]

theorem cut_doubleQuotes (notQuote : delimiter ≠ quote) (content rest : List Char) :
    cut delimiter .run (doubleQuotes content ++ rest) =
      (cut delimiter .run rest).modifyHead (doubleQuotes content ++ ·) := by
  induction content with
  | nil => cases pieces : cut delimiter .run rest <;> simp [doubleQuotes, pieces]
  | cons c content ih =>
      rw [doubleQuotes]
      split
      · simp [cut, Mode.next, ih, notQuote.symm, Function.comp_def]
      · next other => simp [cut, Mode.next, ih, other, Function.comp_def]

theorem cut_enquote (notQuote : delimiter ≠ quote) (content rest : List Char) :
    cut delimiter .lead (enquote content ++ rest) =
      (cut delimiter .lead rest).modifyHead (enquote content ++ ·) := by
  have inside := cut_doubleQuotes notQuote content (quote :: rest)
  rw [enquote, List.cons_append, List.append_assoc, cut, if_neg (by simp [notQuote.symm])]
  simp only [Mode.next, if_true, List.singleton_append, inside]
  rw [cut, if_neg (by simp [notQuote.symm])]
  simp [Mode.next, cut_close, Function.comp_def]

theorem cut_unclosed (notQuote : delimiter ≠ quote) (content : List Char) :
    cut delimiter .lead (quote :: doubleQuotes content) = [quote :: doubleQuotes content] := by
  have inside := cut_doubleQuotes notQuote content []
  rw [List.append_nil] at inside
  rw [cut, if_neg (by simp [notQuote.symm])]
  simp [Mode.next, inside, cut]

theorem cut_bare_append (notQuote : delimiter ≠ quote) {content rest : List Char}
    (free : delimiter ∉ content) (ends : AtDelimiter delimiter rest) :
    cut delimiter .bare (content ++ rest) =
      (cut delimiter .lead rest).modifyHead (content ++ ·) := by
  induction content with
  | nil =>
      cases rest with
      | nil => rfl
      | cons c rest =>
          obtain rfl := ends c rfl
          simp [cut, Mode.next, notQuote]
  | cons c content ih =>
      have other : c ≠ delimiter := fun same => free (same ▸ List.mem_cons_self ..)
      have inside := ih fun member => free (List.mem_cons_of_mem _ member)
      simp [cut, Mode.next, other, inside, Function.comp_def]

theorem cut_bare (notQuote : delimiter ≠ quote) {c : Char} {content rest : List Char}
    (opens : c ≠ quote) (other : c ≠ delimiter) (solid : isSpace c = false)
    (free : delimiter ∉ content) (ends : AtDelimiter delimiter rest) :
    cut delimiter .lead (c :: (content ++ rest)) =
      (cut delimiter .lead rest).modifyHead (c :: content ++ ·) := by
  rw [cut, if_neg (by simp [other])]
  simp [Mode.next, opens, other, solid, cut_bare_append notQuote free ends, Function.comp_def]

/-- The first segment begins as the text does. -/
theorem head?_of_head?_segments {text segment : List Char} {c : Char}
    (first : (segments delimiter text).head? = some segment) (head : segment.head? = some c) :
    text.head? = some c := by
  cases text with
  | nil =>
      cases first
      cases head
  | cons d rest =>
      rw [segments, cut] at first
      split at first
      · cases first
        cases head
      · cases pieces : cut delimiter (Mode.lead.next delimiter d) rest with
        | nil => simp [pieces] at first
        | cons piece others =>
            rw [pieces] at first
            cases first
            exact head

end

/-! ### Refused segments -/

theorem Refused.not_accepted {segment : List Char} {offset : Nat}
    (refused : Refused segment offset) : ¬Accepted segment := by
  obtain ⟨content, blankBefore, blankAfter, solid, closes⟩ := refused
  rintro ⟨element, stands⟩
  rw [List.append_assoc] at stands
  obtain ⟨after, read, blank⟩ :=
    (standsFor_iff_of_quote (trimStart_blank_enquote blankBefore _ _)).1 stands
  rw [readQuoted_doubleQuotes _ (head?_append_cons_ne_quote blankAfter closes)] at read
  cases read
  simp [isBlank, solid] at blank

theorem Refused.unique {segment : List Char} {offset other : Nat}
    (refused : Refused segment offset) (refused' : Refused segment other) : offset = other := by
  obtain @⟨before, after, rest, c, content, blankBefore, blankAfter, solid, closes⟩ := refused
  generalize same : before ++ enquote content ++ after ++ c :: rest = segment at refused'
  obtain @⟨before', after', rest', c', content', blankBefore', blankAfter', solid', closes'⟩ :=
    refused'
  rw [List.append_assoc, List.append_assoc _ after'] at same
  obtain ⟨rfl, rfl, tails⟩ := enquote_append_inj blankBefore blankBefore'
    (head?_append_cons_ne_quote blankAfter closes) (head?_append_cons_ne_quote blankAfter' closes')
    same
  have starts := congrArg trimStart tails
  rw [trimStart_blank_cons blankAfter solid, trimStart_blank_cons blankAfter' solid'] at starts
  rw [starts] at tails
  rw [List.append_cancel_right tails]

theorem TextAfterRun.exists_not_accepted {start position : Nat} {pieces : List (List Char)}
    (refused : TextAfterRun start pieces position) : ∃ segment ∈ pieces, ¬Accepted segment := by
  induction refused with
  | here start refused others => exact ⟨_, List.mem_cons_self .., refused.not_accepted⟩
  | later accepted behind ih =>
      obtain ⟨segment, listed, refused⟩ := ih
      exact ⟨segment, List.mem_cons_of_mem _ listed, refused⟩

theorem TextAfterRun.unique {start position other : Nat} {pieces : List (List Char)}
    (refused : TextAfterRun start pieces position) (refused' : TextAfterRun start pieces other) :
    position = other := by
  induction refused with
  | here start refused others =>
      cases refused' with
      | here _ refused' _ => rw [refused.unique refused']
      | later accepted _ => exact absurd accepted refused.not_accepted
  | later accepted behind ih =>
      cases refused' with
      | here _ refused' _ => exact absurd accepted refused'.not_accepted
      | later _ behind' => exact ih behind'

end Settings.Text
