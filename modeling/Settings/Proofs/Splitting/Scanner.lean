import Settings.Proofs.Failures
import Settings.Proofs.Splitting.Segments

/-!
The scanner finds the segments of a text.

A text goes on in one of six ways at the start of a segment (`Layout`), and every
statement about the scanner is an induction over them.  The tokens of a text are those of
its segments with a delimiter between two of them (`Grouped`), unless a run is not closed.
-/

namespace Settings.Text

/-- How a text goes on at the start of a segment or behind a closed run. -/
inductive Layout (delimiter : Char) : List Char → Prop where
  | nil : Layout delimiter []
  | unclosed (content : List Char) : Layout delimiter (quote :: doubleQuotes content)
  | run (content : List Char) {rest : List Char} (single : rest.head? ≠ some quote)
      (behind : Layout delimiter rest) : Layout delimiter (enquote content ++ rest)
  | delimiter {rest : List Char} (behind : Layout delimiter rest) :
      Layout delimiter (delimiter :: rest)
  | space {c : Char} {rest : List Char} (other : c ≠ delimiter) (opens : c ≠ quote)
      (space : isSpace c = true) (behind : Layout delimiter rest) : Layout delimiter (c :: rest)
  | bare {c : Char} {content rest : List Char} (other : c ≠ delimiter) (opens : c ≠ quote)
      (solid : isSpace c = false) (free : delimiter ∉ content) (ends : AtDelimiter delimiter rest)
      (behind : Layout delimiter rest) : Layout delimiter (c :: (content ++ rest))

/-- Every text is free of a delimiter up to its first one, or to its end. -/
theorem exists_append_atDelimiter (delimiter : Char) (text : List Char) :
    ∃ content rest, text = content ++ rest ∧ delimiter ∉ content ∧ AtDelimiter delimiter rest := by
  induction text with
  | nil => exact ⟨[], [], rfl, by simp, atDelimiter_nil delimiter⟩
  | cons c text ih =>
      by_cases same : c = delimiter
      · subst same
        exact ⟨[], c :: text, rfl, by simp, atDelimiter_cons c text⟩
      · obtain ⟨content, rest, rfl, free, ends⟩ := ih
        exact ⟨c :: content, rest, rfl, by simp [Ne.symm same, free], ends⟩

theorem layout (delimiter : Char) (text : List Char) : Layout delimiter text := by
  cases text with
  | nil => exact .nil
  | cons c rest =>
      by_cases quoted : c = quote
      · subst quoted
        cases read : readQuoted rest with
        | none =>
            obtain ⟨content, rfl⟩ := readQuoted_eq_none_iff.1 read
            exact .unclosed content
        | some found =>
            have shorter := readQuoted_length_lt read
            obtain ⟨same, single⟩ := readQuoted_eq_some_iff.1 read
            have split : quote :: rest = enquote found.1 ++ found.2 := by simp [same, enquote]
            rw [split]
            exact .run found.1 single (layout delimiter found.2)
      · by_cases same : c = delimiter
        · subst same
          exact .delimiter (layout c rest)
        · cases space : isSpace c with
          | true => exact .space same quoted space (layout delimiter rest)
          | false =>
              obtain ⟨content, behind, rfl, free, ends⟩ := exists_append_atDelimiter delimiter rest
              exact .bare same quoted space free ends (layout delimiter behind)
termination_by text.length

/-! ### The tokens of segments -/

/-- The tokens of a segment that begins at a position. -/
inductive Scanned (start : Nat) : List Char → List Token → Prop where
  | blank {segment : List Char} (blank : isBlank segment = true) : Scanned start segment []
  | bare {before rest : List Char} {c : Char} (blankBefore : isBlank before = true)
      (solid : isSpace c = false) (opens : c ≠ quote) :
      Scanned start (before ++ c :: rest) [.bare (trimEnd (c :: rest)) (start + before.length)]
  | quoted {before after : List Char} (content : List Char) (blankBefore : isBlank before = true)
      (blankAfter : isBlank after = true) :
      Scanned start (before ++ enquote content ++ after)
        [.quoted content (start + before.length)]
  | refused {before after rest : List Char} {c : Char} {next : Token} (content : List Char)
      (more : List Token) (blankBefore : isBlank before = true) (blankAfter : isBlank after = true)
      (solid : isSpace c = false) (closes : after = [] → c ≠ quote)
      (other : ∀ position, next ≠ .delimiter position)
      (placed : next.position = start + (before ++ enquote content ++ after).length) :
      Scanned start (before ++ enquote content ++ after ++ c :: rest)
        (.quoted content (start + before.length) :: next :: more)

namespace Scanned

variable {start : Nat} {segment : List Char} {group : List Token}

/-- A segment that is not blank has a first token, at its first other character. -/
theorem exists_first (scanned : Scanned start segment group) :
    (isBlank segment = true ∧ group = []) ∨
      ∃ before c rest token more, segment = before ++ c :: rest ∧ isBlank before = true ∧
        isSpace c = false ∧ group = token :: more ∧
        (∀ position, token ≠ .delimiter position) ∧ token.position = start + before.length := by
  cases scanned with
  | blank blank => exact .inl ⟨blank, rfl⟩
  | @bare before rest c blankBefore solid opens =>
      exact .inr ⟨before, c, rest, _, [], rfl, blankBefore, solid, rfl, by simp, rfl⟩
  | @quoted before after content blankBefore blankAfter =>
      refine .inr ⟨before, quote, doubleQuotes content ++ quote :: after, _, [], ?_, blankBefore,
        isSpace_quote, rfl, by simp, rfl⟩
      simp [enquote]
  | @refused before after rest c next content more blankBefore =>
      refine .inr ⟨before, quote, doubleQuotes content ++ quote :: (after ++ c :: rest), _, _, ?_,
        blankBefore, isSpace_quote, rfl, by simp, rfl⟩
      simp [enquote]

theorem eq_nil_of_isBlank (scanned : Scanned start segment group)
    (blank : isBlank segment = true) : group = [] := by
  rcases scanned.exists_first with ⟨-, none⟩ | ⟨before, c, rest, -, -, rfl, -, solid, -⟩
  · exact none
  · simp [isBlank, solid] at blank

theorem exists_cons (scanned : Scanned start segment group) (solid : isBlank segment = false) :
    ∃ token more, group = token :: more ∧ ∀ position, token ≠ .delimiter position := by
  rcases scanned.exists_first with ⟨blank, -⟩ | ⟨-, -, -, token, more, -, -, -, rfl, other, -⟩
  · rw [solid] at blank
    cases blank
  · exact ⟨token, more, rfl, other⟩

/-- White space in front of a segment. -/
theorem space {c : Char} (space : isSpace c = true) (scanned : Scanned (start + 1) segment group) :
    Scanned start (c :: segment) group := by
  have longer : ∀ before : List Char, isBlank before = true → isBlank (c :: before) = true := by
    intro before blank
    simpa [isBlank, space] using blank
  have shift : ∀ length : Nat, start + 1 + length = start + (length + 1) := by omega
  cases scanned with
  | blank blank => exact .blank (longer _ blank)
  | bare blankBefore solid opens =>
      rw [shift]
      exact .bare (longer _ blankBefore) solid opens
  | quoted content blankBefore blankAfter =>
      rw [shift]
      exact .quoted content (longer _ blankBefore) blankAfter
  | refused content more blankBefore blankAfter solid closes other placed =>
      rw [shift]
      refine .refused content more (longer _ blankBefore) blankAfter solid closes other ?_
      rw [placed, shift]
      simp

/-- A run in front of a segment. -/
theorem run {content : List Char} (single : segment.head? ≠ some quote)
    (scanned : Scanned (start + (enquote content).length) segment group) :
    Scanned start (enquote content ++ segment) (.quoted content start :: group) := by
  rcases scanned.exists_first with ⟨blank, rfl⟩ | first
  · exact @Scanned.quoted start [] segment content rfl blank
  · obtain ⟨before, c, rest, next, more, rfl, blank, solid, rfl, other, placed⟩ := first
    have closes : before = [] → c ≠ quote := by
      rintro rfl same
      exact single (congrArg some same)
    rw [← List.append_assoc]
    refine @Scanned.refused start [] before rest c next content more rfl blank solid closes other ?_
    rw [placed]
    simp
    omega

end Scanned

/-- The tokens of segments that stand one behind the other, the first one at a position. -/
inductive Grouped : Nat → List (List Char) → List Token → Prop where
  | last {start : Nat} {segment : List Char} {group : List Token}
      (scanned : Scanned start segment group) : Grouped start [segment] group
  | cons {start : Nat} {segment : List Char} {others : List (List Char)}
      {group tokens : List Token} (scanned : Scanned start segment group)
      (behind : Grouped (start + segment.length + 1) others tokens) :
      Grouped start (segment :: others) (group ++ .delimiter (start + segment.length) :: tokens)

/-- Text in front of the first segment, with tokens that join those of the segment. -/
theorem Grouped.modifyHead {start : Nat} {pieces : List (List Char)} {tokens joined : List Token}
    {front : List Char} (grouped : Grouped (start + front.length) pieces tokens)
    (joins : ∀ segment group, pieces.head? = some segment →
      Scanned (start + front.length) segment group →
        Scanned start (front ++ segment) (joined ++ group)) :
    Grouped start (pieces.modifyHead (front ++ ·)) (joined ++ tokens) := by
  cases grouped with
  | last scanned => exact .last (joins _ _ rfl scanned)
  | @cons _ segment others group tokens scanned behind =>
      have ending : start + front.length + segment.length = start + (front ++ segment).length := by
        simp
        omega
      rw [List.modifyHead_cons, ← List.append_assoc]
      rw [ending] at behind ⊢
      exact .cons (joins _ _ rfl scanned) behind

/-! ### The scanner, segment by segment -/

section

variable {delimiter : Char}

theorem tokens_space {c : Char} (other : c ≠ delimiter) (opens : c ≠ quote)
    (space : isSpace c = true) (position : Nat) (rest : List Char) :
    tokens delimiter position (c :: rest) = tokens delimiter (position + 1) rest := by
  rw [tokens, if_neg opens, if_neg other, if_pos space]

/-- A run that is not closed is reported where it opens. -/
theorem tokens_unclosed (position : Nat) (content : List Char) :
    tokens delimiter position (quote :: doubleQuotes content) = .error (.unclosed position) := by
  rw [tokens, if_pos rfl]
  split
  · rfl
  · next read =>
      rw [readQuoted_doubleQuotes_eq_none] at read
      cases read

theorem tokens_enquote {content rest : List Char} (single : rest.head? ≠ some quote)
    (position : Nat) :
    tokens delimiter position (enquote content ++ rest) =
      (tokens delimiter (position + (enquote content).length) rest).map
        (.quoted content position :: ·) := by
  have form : enquote content ++ rest = quote :: (doubleQuotes content ++ quote :: rest) := by
    simp [enquote]
  have behind : position + 1 + ((doubleQuotes content ++ quote :: rest).length - rest.length) =
      position + (enquote content).length := by
    simp [enquote]
    omega
  rw [form, tokens_quote_of_readQuoted (readQuoted_doubleQuotes content single), behind]

theorem tokens_bare_append {c : Char} {content rest : List Char} (other : c ≠ delimiter)
    (opens : c ≠ quote) (solid : isSpace c = false) (free : delimiter ∉ content)
    (ends : AtDelimiter delimiter rest) (position : Nat) :
    tokens delimiter position (c :: content ++ rest) =
      (tokens delimiter (position + (c :: content).length) rest).map
        (.bare (trimEnd (c :: content)) position :: ·) := by
  have behind : position + 1 + content.length = position + (c :: content).length := by
    simp
    omega
  rw [List.cons_append, tokens_bare opens other solid, takeWhile_append_atDelimiter free ends,
    dropWhile_append_atDelimiter free ends, behind]

/-- Text that the scanner passes as the beginning of a segment, on the way to the text behind it. -/
structure Joins (delimiter : Char) (front rest : List Char) (joined : Nat → List Token) :
    Prop where
  scans : ∀ start, tokens delimiter start (front ++ rest) =
    (tokens delimiter (start + front.length) rest).map (joined start ++ ·)
  cuts : segments delimiter (front ++ rest) = (segments delimiter rest).modifyHead (front ++ ·)
  groups : ∀ start segment group, (segments delimiter rest).head? = some segment →
    Scanned (start + front.length) segment group →
      Scanned start (front ++ segment) (joined start ++ group)
  refuses : ∀ segment, (segments delimiter rest).head? = some segment →
    Accepted (front ++ segment) → Accepted segment
  opens : ∀ lead more, rest = lead ++ quote :: more →
    Mode.lead.behind delimiter (front ++ lead) = Mode.lead.behind delimiter lead
  closes : Mode.lead.behind delimiter rest ≠ .run →
    Mode.lead.behind delimiter (front ++ rest) ≠ .run

theorem joins_space {c : Char} (other : c ≠ delimiter) (opens : c ≠ quote)
    (space : isSpace c = true) (rest : List Char) :
    Joins delimiter [c] rest fun _ => [] := by
  have passed : ∀ text, Mode.lead.behind delimiter ([c] ++ text) =
      Mode.lead.behind delimiter text := by
    intro text
    simp [Mode.behind, Mode.next, opens, space]
  constructor
  case scans =>
    intro start
    rw [List.singleton_append, tokens_space other opens space]
    cases tokens delimiter (start + [c].length) rest <;> rfl
  case cuts => exact cut_space other opens space rest
  case groups => exact fun start segment group _ scanned => scanned.space space
  case refuses =>
    exact fun segment _ accepted =>
      accepted.of_trimStart_eq (trimStart_cons_of_isSpace space segment)
  case opens => exact fun lead more _ => passed lead
  case closes => exact fun closed => passed rest ▸ closed

theorem joins_enquote (notQuote : delimiter ≠ quote) (content : List Char) {rest : List Char}
    (single : rest.head? ≠ some quote) :
    Joins delimiter (enquote content) rest fun start => [.quoted content start] := by
  have apart : ∀ segment, (segments delimiter rest).head? = some segment →
      segment.head? ≠ some quote :=
    fun segment first head => single (head?_of_head?_segments first head)
  constructor
  case scans => exact fun start => tokens_enquote single start
  case cuts => exact cut_enquote notQuote content rest
  case groups => exact fun start segment group first scanned => scanned.run (apart segment first)
  case refuses =>
    intro segment first accepted
    exact ⟨[], .blank ((accepted_enquote_append_iff (apart segment first)).1 accepted)⟩
  case opens =>
    rintro (_ | ⟨c, lead⟩) more rfl
    · exact absurd rfl single
    · rw [behind_append, behind_enquote, behind_close_cons]
  case closes =>
    intro closed
    rw [behind_append, behind_enquote]
    cases rest with
    | nil => simp [Mode.behind]
    | cons c rest => exact closed

theorem joins_bare (notQuote : delimiter ≠ quote) {c : Char} {content rest : List Char}
    (other : c ≠ delimiter) (opens : c ≠ quote) (solid : isSpace c = false)
    (free : delimiter ∉ content) (ends : AtDelimiter delimiter rest) :
    Joins delimiter (c :: content) rest fun start => [.bare (trimEnd (c :: content)) start] := by
  have passed : Mode.lead.behind delimiter (c :: content) = .bare := by
    have first : Mode.lead.behind delimiter [c] = .bare := by
      simp [Mode.behind, Mode.next, opens, other, solid]
    rw [← List.singleton_append, behind_append, first, behind_bare free]
  have onward : ∀ text, Mode.bare.behind delimiter (delimiter :: text) =
      Mode.lead.behind delimiter (delimiter :: text) := by
    intro text
    simp [Mode.behind, Mode.next, notQuote]
  have blankFirst : ∀ segment, (segments delimiter rest).head? = some segment → segment = [] := by
    intro segment first
    cases rest with
    | nil =>
        cases first
        rfl
    | cons d rest =>
        obtain rfl := ends d rfl
        rw [segments, cut_delimiter notQuote] at first
        cases first
        rfl
  constructor
  case scans => exact fun start => tokens_bare_append other opens solid free ends start
  case cuts => exact cut_bare notQuote opens other solid free ends
  case groups =>
    intro start segment group first scanned
    obtain rfl := blankFirst segment first
    rcases scanned.exists_first with ⟨-, rfl⟩ | ⟨before, d, more, -, -, same, -⟩
    · rw [List.append_nil]
      exact @Scanned.bare start [] content c rfl solid opens
    · simp at same
  case refuses =>
    intro segment first _
    rw [blankFirst segment first]
    exact ⟨[], .blank rfl⟩
  case opens =>
    rintro (_ | ⟨d, lead⟩) more rfl
    · exact absurd (ends quote rfl).symm notQuote
    · obtain rfl := ends d rfl
      rw [behind_append, passed, onward]
  case closes =>
    intro closed
    rw [behind_append, passed]
    cases rest with
    | nil => simp [Mode.behind]
    | cons d rest =>
        obtain rfl := ends d rfl
        rw [onward]
        exact closed

/-- What the scanner makes of a text: the tokens of its segments, or the report of a run that is
not closed. -/
def ScansAs (delimiter : Char) (text : List Char) (start : Nat) :
    Except SplitFault (List Token) → Prop :=
  Ends
    (fun tokens => Grouped start (segments delimiter text) tokens ∧
      Mode.lead.behind delimiter text ≠ .run)
    (fun fault => ∃ position, fault = .unclosed (start + position) ∧
      Unclosed delimiter text position ∧ ∃ segment ∈ segments delimiter text, ¬Accepted segment)

theorem Joins.scansAs {front rest : List Char} {joined : Nat → List Token}
    (joins : Joins delimiter front rest joined)
    (scans : ∀ start, ScansAs delimiter rest start (tokens delimiter start rest)) (start : Nat) :
    ScansAs delimiter (front ++ rest) start (tokens delimiter start (front ++ rest)) := by
  have behind := scans (start + front.length)
  rw [joins.scans]
  cases result : tokens delimiter (start + front.length) rest with
  | ok tokens =>
      rw [result] at behind
      obtain ⟨grouped, closed⟩ := behind
      refine Ends.ok ⟨?_, joins.closes closed⟩
      rw [joins.cuts]
      exact grouped.modifyHead (joins.groups start)
  | error fault =>
      rw [result] at behind
      obtain ⟨position, rfl, unclosed, segment, listed, refused⟩ := behind
      refine Ends.error ⟨front.length + position, ?_, unclosed.append front joins.opens, ?_⟩
      · rw [Nat.add_assoc]
      · rw [joins.cuts]
        cases pieces : segments delimiter rest with
        | nil =>
            rw [pieces] at listed
            cases listed
        | cons first others =>
            rw [pieces] at listed
            rw [List.modifyHead_cons]
            rcases List.mem_cons.1 listed with rfl | later
            · refine ⟨front ++ segment, List.mem_cons_self .., fun accepted => refused ?_⟩
              exact joins.refuses segment (congrArg List.head? pieces) accepted
            · exact ⟨segment, List.mem_cons_of_mem _ later, refused⟩

/-- The scanner finds the segments, or a run that is not closed. -/
theorem scansAs (notQuote : delimiter ≠ quote) (text : List Char) (start : Nat) :
    ScansAs delimiter text start (tokens delimiter start text) := by
  induction layout delimiter text generalizing start with
  | nil =>
      rw [tokens_nil]
      exact Ends.ok ⟨.last (.blank rfl), by simp [Mode.behind]⟩
  | unclosed content =>
      rw [tokens_unclosed]
      refine Ends.error ⟨0, rfl, @Unclosed.intro delimiter [] content rfl, _, ?_,
        not_accepted_unclosed content⟩
      rw [segments, cut_unclosed notQuote]
      exact List.mem_singleton_self _
  | run content single behind ih => exact (joins_enquote notQuote content single).scansAs ih start
  | @delimiter rest behind ih =>
      have further := ih (start + 1)
      have passed : ∀ text, Mode.lead.behind delimiter (delimiter :: text) =
          Mode.lead.behind delimiter text := by
        intro text
        simp [Mode.behind, Mode.next, notQuote]
      rw [tokens_delimiter notQuote]
      cases result : tokens delimiter (start + 1) rest with
      | ok tokens =>
          rw [result] at further
          obtain ⟨grouped, closed⟩ := further
          refine Ends.ok ⟨?_, passed rest ▸ closed⟩
          rw [segments, cut_delimiter notQuote]
          exact .cons (.blank rfl) grouped
      | error fault =>
          rw [result] at further
          obtain ⟨position, rfl, unclosed, segment, listed, refused⟩ := further
          refine Ends.error ⟨1 + position, ?_, ?_, segment, ?_, refused⟩
          · rw [Nat.add_assoc]
          · exact unclosed.append [delimiter] fun lead more _ => passed lead
          · rw [segments, cut_delimiter notQuote]
            exact List.mem_cons_of_mem _ listed
  | @space c rest other opens space behind ih =>
      exact (joins_space other opens space rest).scansAs ih start
  | @bare c content rest other opens solid free ends behind ih =>
      exact (joins_bare notQuote other opens solid free ends).scansAs ih start

end

end Settings.Text
