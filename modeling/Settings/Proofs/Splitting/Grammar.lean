import Settings.Proofs.Splitting.Scanner

/-!
The grammar of delimited texts.

Splitting accepts a text if all of its segments are accepted, and then gives the elements
that the segments stand for.  Otherwise it reports the run that is not closed, or else
the first text that follows a closed run.
-/

namespace Settings.Text

/-! ### The elements of segments -/

/-- What reading elements off the tokens of segments ends with, where some of the segments stand
for elements. -/
def ListsAs (start : Nat) (pieces counted : List (List Char)) :
    Except SplitFault (List (List Char)) → Prop :=
  Ends
    (fun elements => (∀ segment ∈ pieces, Accepted segment) ∧
      List.Forall₂ StandsFor counted elements)
    (fun fault => ∃ position, fault = .textAfterQuotes position ∧
      TextAfterRun start pieces position)

/-- A segment that is accepted, in front of others. -/
theorem ListsAs.cons {start : Nat} {segment : List Char} {pieces counted : List (List Char)}
    {element : List Char} {result : Except SplitFault (List (List Char))}
    (stands : StandsFor segment element)
    (lists : ListsAs (start + segment.length + 1) pieces counted result) :
    ListsAs start (segment :: pieces) (segment :: counted) (result.map (element :: ·)) := by
  cases result with
  | ok elements =>
      obtain ⟨accepted, each⟩ := lists
      refine Ends.ok ⟨?_, .cons stands each⟩
      intro other listed
      rcases List.mem_cons.1 listed with rfl | later
      · exact ⟨element, stands⟩
      · exact accepted other later
  | error fault =>
      obtain ⟨position, rfl, behind⟩ := lists
      exact Ends.error ⟨position, rfl, .later ⟨element, stands⟩ behind⟩

/-- A blank segment that does not count, in front of others. -/
theorem ListsAs.cons_blank {start : Nat} {segment : List Char} {pieces counted : List (List Char)}
    {result : Except SplitFault (List (List Char))} (blank : isBlank segment = true)
    (lists : ListsAs (start + segment.length + 1) pieces counted result) :
    ListsAs start (segment :: pieces) counted result := by
  have stands : StandsFor segment [] := .blank blank
  cases result with
  | ok elements =>
      obtain ⟨accepted, each⟩ := lists
      refine Ends.ok ⟨?_, each⟩
      intro other listed
      rcases List.mem_cons.1 listed with rfl | later
      · exact ⟨[], stands⟩
      · exact accepted other later
  | error fault =>
      obtain ⟨position, rfl, behind⟩ := lists
      exact Ends.error ⟨position, rfl, .later ⟨[], stands⟩ behind⟩

/-- A delimiter in front of any token but another delimiter stands for nothing by itself. -/
theorem elements_delimiter_cons {token : Token} (other : ∀ position, token ≠ .delimiter position)
    (position : Nat) (rest : List Token) :
    elements (.delimiter position :: token :: rest) = elements (token :: rest) := by
  cases token with
  | delimiter place => exact absurd rfl (other place)
  | quoted | bare => rfl

/-- The tokens of a segment that is not blank stand for its element, or are refused. -/
theorem Scanned.elements_append {start : Nat} {segment : List Char} {group : List Token}
    (scanned : Scanned start segment group) (solid : isBlank segment = false) :
    (∃ element, StandsFor segment element ∧ elements group = .ok [element] ∧
      ∀ place rest, elements (group ++ .delimiter place :: rest) =
        (elements (.delimiter place :: rest)).map (element :: ·)) ∨
      ∃ position, (∀ others, TextAfterRun start (segment :: others) position) ∧
        ∀ rest, elements (group ++ rest) = .error (.textAfterQuotes position) := by
  cases scanned with
  | blank blank =>
      rw [solid] at blank
      cases blank
  | @bare before rest c blankBefore isSolid opens =>
      have starts := trimStart_blank_cons blankBefore isSolid rest
      have stands : StandsFor (before ++ c :: rest) (trimEnd (c :: rest)) := by
        rw [standsFor_iff_of_bare starts opens, trim, starts]
      exact .inl ⟨_, stands, rfl, fun place rest => rfl⟩
  | quoted content blankBefore blankAfter =>
      exact .inl ⟨content, .quoted content blankBefore blankAfter, rfl, fun place rest => rfl⟩
  | @refused before after rest c next content more blankBefore blankAfter isSolid closes other
      placed =>
      have refused : Refused (before ++ enquote content ++ after ++ c :: rest) _ :=
        .intro content blankBefore blankAfter isSolid closes
      refine .inr ⟨_, .here start refused, fun rest => ?_⟩
      rw [← placed]
      cases next with
      | delimiter place => exact absurd rfl (other place)
      | quoted | bare => rfl

/-- The last segment, if it is not blank. -/
theorem Scanned.listsAs {start : Nat} {segment : List Char} {group : List Token}
    (scanned : Scanned start segment group) (solid : isBlank segment = false) :
    ListsAs start [segment] [segment] (elements group) := by
  rcases scanned.elements_append solid with ⟨element, stands, reads, -⟩ | ⟨position, refused, fails⟩
  · rw [reads]
    have nothing : ListsAs (start + segment.length + 1) [] [] (.ok []) := Ends.ok ⟨by simp, .nil⟩
    exact nothing.cons stands
  · have fails := fails []
    rw [List.append_nil] at fails
    rw [fails]
    exact Ends.error ⟨position, rfl, refused []⟩

/-- A segment that is not blank, in front of others. -/
theorem Scanned.listsAs_append {start place : Nat} {segment : List Char} {group tokens : List Token}
    {others counted : List (List Char)} (scanned : Scanned start segment group)
    (solid : isBlank segment = false)
    (behind : ListsAs (start + segment.length + 1) others counted
      (elements (.delimiter place :: tokens))) :
    ListsAs start (segment :: others) (segment :: counted)
      (elements (group ++ .delimiter place :: tokens)) := by
  rcases scanned.elements_append solid with ⟨element, stands, -, reads⟩ | ⟨position, refused, fails⟩
  · rw [reads]
    exact behind.cons stands
  · rw [fails]
    exact Ends.error ⟨position, rfl, refused others⟩

theorem dropBlankLast_cons {segment : List Char} {others : List (List Char)} (more : others ≠ []) :
    dropBlankLast (segment :: others) = segment :: dropBlankLast others := by
  cases others with
  | nil => exact absurd rfl more
  | cons next rest => rfl

theorem Grouped.ne_nil {start : Nat} {pieces : List (List Char)} {tokens : List Token}
    (grouped : Grouped start pieces tokens) : pieces ≠ [] := by
  cases grouped <;> simp

/-- What a delimiter and the tokens of the segments behind it stand for. -/
theorem Grouped.listsAs_delimiter {start : Nat} {pieces : List (List Char)} {tokens : List Token}
    (grouped : Grouped start pieces tokens) (position : Nat) :
    ListsAs start pieces (dropBlankLast pieces) (elements (.delimiter position :: tokens)) := by
  induction grouped generalizing position with
  | @last start segment group scanned =>
      cases blank : isBlank segment with
      | true =>
          obtain rfl := scanned.eq_nil_of_isBlank blank
          rw [dropBlankLast, if_pos blank]
          exact ListsAs.cons_blank blank (Ends.ok ⟨by simp, .nil⟩)
      | false =>
          obtain ⟨token, more, rfl, other⟩ := scanned.exists_cons blank
          rw [dropBlankLast, if_neg (by simp [blank]), elements_delimiter_cons other]
          exact scanned.listsAs blank
  | @cons start segment others group tokens scanned behind ih =>
      rw [dropBlankLast_cons behind.ne_nil]
      cases blank : isBlank segment with
      | true =>
          obtain rfl := scanned.eq_nil_of_isBlank blank
          exact (ih _).cons (.blank blank)
      | false =>
          obtain ⟨token, more, rfl, other⟩ := scanned.exists_cons blank
          rw [List.cons_append, elements_delimiter_cons other]
          exact scanned.listsAs_append blank (ih _)

/-- What the tokens of segments stand for. -/
theorem Grouped.listsAs {start : Nat} {pieces : List (List Char)} {tokens : List Token}
    (grouped : Grouped start pieces tokens) :
    ListsAs start pieces (dropBlankLast (dropBlankFirst pieces)) (elements tokens) := by
  cases grouped with
  | @last _ segment _ scanned =>
      cases blank : isBlank segment with
      | true =>
          obtain rfl := scanned.eq_nil_of_isBlank blank
          rw [dropBlankFirst, if_pos blank]
          exact ListsAs.cons_blank blank (Ends.ok ⟨by simp, .nil⟩)
      | false =>
          rw [dropBlankFirst, if_neg (by simp [blank]), dropBlankLast, if_neg (by simp [blank])]
          exact scanned.listsAs blank
  | @cons _ segment others group tokens scanned behind =>
      have further := behind.listsAs_delimiter (start + segment.length)
      cases blank : isBlank segment with
      | true =>
          obtain rfl := scanned.eq_nil_of_isBlank blank
          rw [dropBlankFirst, if_pos blank]
          exact further.cons_blank blank
      | false =>
          rw [dropBlankFirst, if_neg (by simp [blank]), dropBlankLast_cons behind.ne_nil]
          exact scanned.listsAs_append blank further

/-! ### Splitting -/

section

variable {delimiter : Char} {text : List Char}

/-- What splitting a text ends with, by the segments of the text. -/
inductive SplitsAs (delimiter : Char) (text : List Char) :
    Except SplitFault (List (List Char)) → Prop where
  | elements {elements : List (List Char)}
      (accepted : ∀ segment ∈ segments delimiter text, Accepted segment)
      (each : List.Forall₂ StandsFor (counted (segments delimiter text)) elements) :
      SplitsAs delimiter text (.ok elements)
  | unclosed {position : Nat} (unclosed : Unclosed delimiter text position) :
      SplitsAs delimiter text (.error (.unclosed position))
  | textAfterRun {position : Nat} (closed : ∀ place, ¬Unclosed delimiter text place)
      (refused : TextAfterRun 0 (segments delimiter text) position) :
      SplitsAs delimiter text (.error (.textAfterQuotes position))

theorem splitsAs_split (notQuote : delimiter ≠ quote) (text : List Char) :
    SplitsAs delimiter text (split delimiter text) := by
  have scans := scansAs notQuote text 0
  rw [split]
  cases result : tokens delimiter 0 text with
  | error fault =>
      rw [result] at scans
      obtain ⟨position, rfl, unclosed, -⟩ := scans
      rw [Nat.zero_add]
      exact .unclosed unclosed
  | ok tokens =>
      rw [result] at scans
      obtain ⟨grouped, closed⟩ := scans
      have lists := grouped.listsAs
      have noRun : ∀ place, ¬Unclosed delimiter text place :=
        fun place unclosed => closed unclosed.behind
      change SplitsAs delimiter text (elements tokens)
      cases read : elements tokens with
      | ok elements =>
          rw [read] at lists
          exact .elements lists.1 lists.2
      | error fault =>
          rw [read] at lists
          obtain ⟨position, rfl, refused⟩ := lists
          exact .textAfterRun noRun refused

theorem Unclosed.exists_not_accepted (notQuote : delimiter ≠ quote) {position : Nat}
    (unclosed : Unclosed delimiter text position) :
    ∃ segment ∈ segments delimiter text, ¬Accepted segment := by
  have scans := scansAs notQuote text 0
  cases result : tokens delimiter 0 text with
  | error fault =>
      rw [result] at scans
      obtain ⟨-, -, -, refused⟩ := scans
      exact refused
  | ok tokens =>
      rw [result] at scans
      exact absurd unclosed.behind scans.2

theorem rightUnique_forall₂_standsFor : Relator.RightUnique (List.Forall₂ StandsFor) :=
  Relator.RightUnique.forall₂ fun _ _ _ stands stands' => stands.unique stands'

/-- The segments of a text leave no choice of how splitting it ends. -/
theorem SplitsAs.unique (notQuote : delimiter ≠ quote)
    {result other : Except SplitFault (List (List Char))}
    (splits : SplitsAs delimiter text result) (splits' : SplitsAs delimiter text other) :
    result = other := by
  have apart : ∀ {position}, Unclosed delimiter text position →
      ¬∀ segment ∈ segments delimiter text, Accepted segment := by
    intro position unclosed accepted
    obtain ⟨segment, listed, refused⟩ := unclosed.exists_not_accepted notQuote
    exact refused (accepted segment listed)
  have apart' : ∀ {position}, TextAfterRun 0 (segments delimiter text) position →
      ¬∀ segment ∈ segments delimiter text, Accepted segment := by
    intro position behind accepted
    obtain ⟨segment, listed, refused⟩ := behind.exists_not_accepted
    exact refused (accepted segment listed)
  cases splits with
  | elements accepted each =>
      cases splits' with
      | elements _ each' => rw [rightUnique_forall₂_standsFor each each']
      | unclosed unclosed => exact absurd accepted (apart unclosed)
      | textAfterRun _ refused => exact absurd accepted (apart' refused)
  | unclosed unclosed =>
      cases splits' with
      | elements accepted _ => exact absurd accepted (apart unclosed)
      | unclosed unclosed' => rw [unclosed.unique unclosed']
      | textAfterRun closed _ => exact absurd unclosed (closed _)
  | textAfterRun closed refused =>
      cases splits' with
      | elements accepted _ => exact absurd accepted (apart' refused)
      | unclosed unclosed => exact absurd unclosed (closed _)
      | textAfterRun _ refused' => rw [refused.unique refused']

/-- Splitting ends as the segments of the text say, and in no other way. -/
theorem split_eq_iff (notQuote : delimiter ≠ quote)
    {result : Except SplitFault (List (List Char))} :
    split delimiter text = result ↔ SplitsAs delimiter text result := by
  constructor
  · rintro rfl
    exact splitsAs_split notQuote text
  · exact (splitsAs_split notQuote text).unique notQuote

theorem exists_split_eq_ok_iff (notQuote : delimiter ≠ quote) :
    (∃ elements, split delimiter text = .ok elements) ↔
      ∀ segment ∈ segments delimiter text, Accepted segment := by
  have splits := splitsAs_split notQuote text
  constructor
  · rintro ⟨elements, read⟩
    rw [read] at splits
    cases splits with
    | elements accepted _ => exact accepted
  · intro accepted
    cases read : split delimiter text with
    | ok elements => exact ⟨elements, rfl⟩
    | error fault =>
        rw [read] at splits
        cases splits with
        | unclosed unclosed =>
            obtain ⟨segment, listed, refused⟩ := unclosed.exists_not_accepted notQuote
            exact absurd (accepted segment listed) refused
        | textAfterRun _ behind =>
            obtain ⟨segment, listed, refused⟩ := behind.exists_not_accepted
            exact absurd (accepted segment listed) refused

end

end Settings.Text

namespace Settings

/-- Splitting accepts exactly the texts whose segments are blank, quoted runs between white
space, or unquoted, and gives the elements that the segments stand for, without a blank first
and a blank last one.  It reports the whole text and the position of the run that is not closed
or, if there is none, of what follows the first run that is not alone in its segment. -/
theorem splitText_segments {delimiter : Char} (notQuote : delimiter ≠ Text.quote)
    (text : String) :
    ((∃ items, splitText delimiter text = .ok items) ↔
      ∀ segment ∈ Text.segments delimiter text.toList, Text.Accepted segment) ∧
    (∀ items, splitText delimiter text = .ok items ↔
      (∀ segment ∈ Text.segments delimiter text.toList, Text.Accepted segment) ∧
        List.Forall₂ Text.StandsFor (Text.counted (Text.segments delimiter text.toList))
          (items.map String.toList)) ∧
    (∀ error, splitText delimiter text = .error error ↔
      (∃ position, Text.Unclosed delimiter text.toList position ∧
        error = .malformedEntry text (.quoting (.unclosed position))) ∨
      (∀ place, ¬Text.Unclosed delimiter text.toList place) ∧
        ∃ position, Text.TextAfterRun 0 (Text.segments delimiter text.toList) position ∧
          error = .malformedEntry text (.quoting (.textAfterQuotes position))) := by
  refine ⟨?accepts, fun items => ?reads, fun error => ?reports⟩
  case accepts =>
    rw [← Text.exists_split_eq_ok_iff notQuote]
    constructor
    · rintro ⟨items, read⟩
      exact ⟨_, splitText_eq_ok_iff.1 read⟩
    · rintro ⟨elements, read⟩
      exact ⟨_, splitText_eq_ok read⟩
  case reads =>
    rw [splitText_eq_ok_iff, Text.split_eq_iff notQuote]
    constructor
    · rintro ⟨accepted, each⟩
      exact ⟨accepted, each⟩
    · rintro ⟨accepted, each⟩
      exact .elements accepted each
  case reports =>
    simp only [splitText_eq_error_iff, Text.split_eq_iff notQuote]
    constructor
    · rintro ⟨fault, rfl, splits⟩
      cases splits with
      | unclosed unclosed => exact .inl ⟨_, unclosed, rfl⟩
      | textAfterRun closed behind => exact .inr ⟨closed, _, behind, rfl⟩
    · rintro (⟨position, unclosed, rfl⟩ | ⟨closed, position, behind, rfl⟩)
      · exact ⟨_, rfl, .unclosed unclosed⟩
      · exact ⟨_, rfl, .textAfterRun closed behind⟩

/-- Blank segments and doubled quotes, a run that is not closed behind a refused segment, and two
refused segments. -/
theorem splitText_segments_samples :
    ',' ≠ Text.quote ∧
      splitText ',' " , 'it''s, ' ,,b 'c' ," = .ok ["it's, ", "", "b 'c'"] ∧
      splitText ',' "'a' b, 'c" =
        .error (.malformedEntry "'a' b, 'c" (.quoting (.unclosed 7))) ∧
      splitText ',' "a, 'b' 'c', 'd' e" =
        .error (.malformedEntry "a, 'b' 'c', 'd' e" (.quoting (.textAfterQuotes 7))) := by
  have notQuote : ',' ≠ Text.quote := by decide
  refine ⟨notQuote, ?accepted, ?unclosed, ?refused⟩
  case accepted =>
    have run : Text.StandsFor " 'it''s, ' ".toList "it's, ".toList :=
      @Text.StandsFor.quoted [' '] [' '] "it's, ".toList rfl rfl
    have bare : Text.StandsFor "b 'c' ".toList "b 'c'".toList := .bare rfl (by decide)
    have pieces : Text.segments ',' " , 'it''s, ' ,,b 'c' ,".toList =
        [" ".toList, " 'it''s, ' ".toList, [], "b 'c' ".toList, []] := by decide
    have accepted : ∀ segment ∈ Text.segments ',' " , 'it''s, ' ,,b 'c' ,".toList,
        Text.Accepted segment := by
      rw [pieces]
      simp only [List.forall_mem_cons]
      exact ⟨⟨_, .blank rfl⟩, ⟨_, run⟩, ⟨_, .blank rfl⟩, ⟨_, bare⟩, ⟨_, .blank rfl⟩, by simp⟩
    have each : List.Forall₂ Text.StandsFor
        [" 'it''s, ' ".toList, [], "b 'c' ".toList] ["it's, ".toList, [], "b 'c'".toList] :=
      .cons run (.cons (.blank rfl) (.cons bare .nil))
    exact ((splitText_segments notQuote _).2.1 _).2 ⟨accepted, each⟩
  case unclosed =>
    have unclosed : Text.Unclosed ',' "'a' b, 'c".toList 7 :=
      @Text.Unclosed.intro ',' "'a' b, ".toList ['c'] (by decide)
    exact ((splitText_segments notQuote _).2.2 _).2 (.inl ⟨7, unclosed, rfl⟩)
  case refused =>
    have closed : ∀ place, ¬Text.Unclosed ',' "a, 'b' 'c', 'd' e".toList place := by
      intro place unclosed
      exact absurd unclosed.behind (by decide)
    have refused : Text.Refused " 'b' 'c'".toList 5 :=
      @Text.Refused.intro [' '] [' '] "c'".toList Text.quote ['b'] rfl rfl (by decide) (by simp)
    have behind : Text.TextAfterRun 0 (Text.segments ',' "a, 'b' 'c', 'd' e".toList) 7 :=
      .later ⟨_, .bare rfl (by decide)⟩ (.here 2 refused _)
    exact ((splitText_segments notQuote _).2.2 _).2 (.inr ⟨closed, 7, behind, rfl⟩)

end Settings
