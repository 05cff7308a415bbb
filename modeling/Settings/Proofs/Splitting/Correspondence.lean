import Settings.Proofs.Splitting.Grammar
import Settings.Proofs.Traversals

/-!
Texts that are split alike.

If the segments of two texts correspond one by one, the texts are split to corresponding
elements, or neither of them is split.  White space at the ends of a text changes its first
and its last segment only, and these stand for the same elements as before.  A change of
single characters that spares quotes, delimiters and white space changes each segment and
its element alike.
-/

namespace Settings.Text

/-! ### Corresponding segments -/

/-- The segments are blank together and accepted together, and what they stand for is changed in
the same way. -/
structure Corresponds (change : List Char → List Char) (segment other : List Char) : Prop where
  blank : isBlank other = isBlank segment
  accepted : Accepted other → Accepted segment
  stands : ∀ element, StandsFor segment element → StandsFor other (change element)

section

variable {delimiter : Char} {change : List Char → List Char}
  {pieces others elements : List (List Char)}

theorem Corresponds.refl (segment : List Char) : Corresponds id segment segment :=
  ⟨rfl, id, fun _ => id⟩

theorem forall₂_dropBlankFirst (each : List.Forall₂ (Corresponds change) pieces others) :
    List.Forall₂ (Corresponds change) (dropBlankFirst pieces) (dropBlankFirst others) := by
  cases each with
  | nil => exact .nil
  | cons first rest =>
      rw [dropBlankFirst, dropBlankFirst, first.blank]
      split
      · exact rest
      · exact .cons first rest

theorem forall₂_dropBlankLast (each : List.Forall₂ (Corresponds change) pieces others) :
    List.Forall₂ (Corresponds change) (dropBlankLast pieces) (dropBlankLast others) := by
  induction each with
  | nil => exact .nil
  | cons first rest ih =>
      cases rest with
      | nil =>
          rw [dropBlankLast, dropBlankLast, first.blank]
          split
          · exact .nil
          · exact .cons first .nil
      | cons next more => exact .cons first ih

theorem forall₂_counted (each : List.Forall₂ (Corresponds change) pieces others) :
    List.Forall₂ (Corresponds change) (counted pieces) (counted others) :=
  forall₂_dropBlankLast (forall₂_dropBlankFirst each)

theorem forall₂_standsFor_map (each : List.Forall₂ (Corresponds change) pieces others)
    (stands : List.Forall₂ StandsFor pieces elements) :
    List.Forall₂ StandsFor others (elements.map change) := by
  induction each generalizing elements with
  | nil =>
      cases stands
      exact .nil
  | cons first _ ih =>
      cases stands with
      | cons firstStands restStand =>
          exact .cons (first.stands _ firstStands) (ih restStand)

theorem forall_accepted_iff (each : List.Forall₂ (Corresponds change) pieces others) :
    (∀ segment ∈ others, Accepted segment) ↔ ∀ segment ∈ pieces, Accepted segment := by
  constructor
  · intro accepted segment listed
    obtain ⟨other, inside, corresponds⟩ := exists_of_forall₂_left each listed
    exact corresponds.accepted (accepted other inside)
  · intro accepted other listed
    obtain ⟨segment, inside, corresponds⟩ := exists_of_forall₂_right each listed
    obtain ⟨element, stands⟩ := accepted segment inside
    exact ⟨_, corresponds.stands element stands⟩

/-- Texts with corresponding segments are split to corresponding elements, or not at all. -/
theorem toOption_split_of_forall₂ (notQuote : delimiter ≠ quote) {text other : List Char}
    (each : List.Forall₂ (Corresponds change) (segments delimiter text)
      (segments delimiter other)) :
    (split delimiter other).toOption = (split delimiter text).toOption.map (List.map change) := by
  cases result : split delimiter text with
  | ok elements =>
      have splits := (split_eq_iff notQuote).1 result
      cases splits with
      | elements accepted stands =>
          have found : split delimiter other = .ok (elements.map change) := by
            rw [split_eq_iff notQuote]
            exact .elements ((forall_accepted_iff each).2 accepted)
              (forall₂_standsFor_map (forall₂_counted each) stands)
          rw [found]
          rfl
  | error fault =>
      cases result' : split delimiter other with
      | ok elements =>
          have accepted := (exists_split_eq_ok_iff notQuote).1 ⟨elements, result'⟩
          obtain ⟨elements, read⟩ :=
            (exists_split_eq_ok_iff notQuote).2 ((forall_accepted_iff each).1 accepted)
          rw [result] at read
          cases read
      | error fault' => rfl

end

/-! ### White space at the ends -/

section

variable {delimiter : Char} {blank segment rest : List Char}

theorem not_quote_mem_of_isBlank (isBlank : isBlank blank = true) : quote ∉ blank := by
  intro member
  have space := List.all_eq_true.1 isBlank quote member
  rw [isSpace_quote] at space
  cases space

theorem isBlank_append (front back : List Char) :
    isBlank (front ++ back) = (isBlank front && isBlank back) :=
  List.all_append

theorem trimStart_append_of_ne_nil (solid : trimStart segment ≠ []) (behind : List Char) :
    trimStart (segment ++ behind) = trimStart segment ++ behind := by
  unfold trimStart at solid ⊢
  rw [List.dropWhile_append, if_neg (by simpa using solid)]

theorem trimEnd_append_of_isBlank (isBlank : isBlank blank = true) (text : List Char) :
    trimEnd (text ++ blank) = trimEnd text := by
  have reversed : Text.isBlank blank.reverse = true := by simpa [Text.isBlank] using isBlank
  have same := trimStart_append_of_isBlank reversed text.reverse
  unfold trimStart at same
  rw [trimEnd, trimEnd, List.reverse_append, same]

/-- Only the white space at its ends is taken away from a text. -/
theorem trim_append_of_isBlank (isBlank : isBlank blank = true) (text : List Char) :
    trim (text ++ blank) = trim text := by
  cases starts : trimStart text with
  | nil =>
      have all : Text.isBlank (text ++ blank) = true := by
        rw [isBlank_append, trimStart_eq_nil_iff.1 starts, isBlank]
        rfl
      rw [trim, trim, starts, trimStart_eq_nil_iff.2 all]
  | cons c rest =>
      rw [trim, trim, trimStart_append_of_ne_nil (by simp [starts]),
        trimEnd_append_of_isBlank isBlank]

theorem trim_blank_append (isBlank : isBlank blank = true) (text : List Char) :
    trim (blank ++ text) = trim text := by
  rw [trim, trim, trimStart_append_of_isBlank isBlank]

theorem exists_eq_append_trim (text : List Char) :
    ∃ before after, isBlank before = true ∧ isBlank after = true ∧
      text = before ++ trim text ++ after := by
  refine ⟨text.takeWhile isSpace, ((trimStart text).reverse.takeWhile isSpace).reverse,
    List.all_takeWhile, ?_, ?_⟩
  · rw [isBlank, List.all_reverse]
    exact List.all_takeWhile
  · have behind : trimStart text =
        trim text ++ ((trimStart text).reverse.takeWhile isSpace).reverse := by
      rw [trim, trimEnd, ← List.reverse_append, List.takeWhile_append_dropWhile,
        List.reverse_reverse]
    rw [List.append_assoc, ← behind, trimStart, List.takeWhile_append_dropWhile]

theorem doubleQuotes_append (front back : List Char) :
    doubleQuotes (front ++ back) = doubleQuotes front ++ doubleQuotes back := by
  induction front with
  | nil => rfl
  | cons c front ih =>
      rw [List.cons_append, doubleQuotes, doubleQuotes, ih]
      split <;> rfl

theorem doubleQuotes_of_not_mem {text : List Char} (free : quote ∉ text) :
    doubleQuotes text = text := by
  induction text with
  | nil => rfl
  | cons c text ih =>
      rw [doubleQuotes, if_neg fun same : c = quote => free (same ▸ List.mem_cons_self),
        ih fun member => free (List.mem_cons_of_mem c member)]

/-- White space behind a text closes no run and opens none. -/
theorem readQuoted_append_of_isBlank (isBlank : isBlank blank = true) (text : List Char) :
    readQuoted (text ++ blank) =
      (readQuoted text).map fun found => (found.1, found.2 ++ blank) := by
  cases read : readQuoted text with
  | none =>
      obtain ⟨content, rfl⟩ := readQuoted_eq_none_iff.1 read
      rw [Option.map_none, readQuoted_eq_none_iff]
      refine ⟨content ++ blank, ?_⟩
      rw [doubleQuotes_append, doubleQuotes_of_not_mem (not_quote_mem_of_isBlank isBlank)]
  | some found =>
      obtain ⟨rfl, single⟩ := readQuoted_eq_some_iff.1 read
      rw [Option.map_some, readQuoted_eq_some_iff]
      refine ⟨by simp, fun head => ?_⟩
      rw [List.head?_append] at head
      cases first : found.2.head? with
      | none =>
          rw [first] at head
          exact head?_ne_quote_of_isBlank isBlank head
      | some c =>
          rw [first] at head
          exact single (first.trans head)

/-- White space in front of a segment changes nothing that it stands for. -/
theorem corresponds_blank_append (isBlank : isBlank blank = true) (segment : List Char) :
    Corresponds id segment (blank ++ segment) := by
  have same := trimStart_append_of_isBlank isBlank segment
  refine ⟨by rw [isBlank_append, isBlank, Bool.true_and],
    fun accepted => accepted.of_trimStart_eq same, fun element stands => ?_⟩
  cases starts : trimStart segment with
  | nil =>
      rw [standsFor_iff_of_nil starts] at stands
      exact (standsFor_iff_of_nil (same.trans starts)).2 stands
  | cons c rest =>
      by_cases quoted : c = quote
      · subst quoted
        rw [standsFor_iff_of_quote starts] at stands
        exact (standsFor_iff_of_quote (same.trans starts)).2 stands
      · rw [standsFor_iff_of_bare starts quoted] at stands
        rw [id, standsFor_iff_of_bare (same.trans starts) quoted, trim_blank_append isBlank]
        exact stands

/-- White space behind a segment changes nothing that it stands for. -/
theorem corresponds_append_blank (isBlank : isBlank blank = true) (segment : List Char) :
    Corresponds id segment (segment ++ blank) := by
  have empty : Text.isBlank (segment ++ blank) = Text.isBlank segment := by
    rw [isBlank_append, isBlank, Bool.and_true]
  cases starts : trimStart segment with
  | nil =>
      have all : Text.isBlank segment = true := trimStart_eq_nil_iff.1 starts
      refine ⟨empty, fun _ => ⟨[], .blank all⟩, fun element stands => ?_⟩
      rw [standsFor_iff_of_nil starts] at stands
      rw [stands]
      exact .blank (empty.trans all)
  | cons c rest =>
      have longer : trimStart (segment ++ blank) = c :: (rest ++ blank) := by
        rw [trimStart_append_of_ne_nil (by simp [starts]), starts, List.cons_append]
      by_cases quoted : c = quote
      · subst quoted
        have reads := readQuoted_append_of_isBlank isBlank rest
        refine ⟨empty, ?_, ?_⟩
        · rintro ⟨element, stands⟩
          obtain ⟨after, read, blankAfter⟩ := (standsFor_iff_of_quote longer).1 stands
          rw [reads] at read
          obtain ⟨⟨content, behind⟩, found, same⟩ := Option.map_eq_some_iff.1 read
          cases same
          rw [isBlank_append, Bool.and_eq_true] at blankAfter
          exact ⟨content, (standsFor_iff_of_quote starts).2 ⟨behind, found, blankAfter.1⟩⟩
        · intro element stands
          obtain ⟨after, read, blankAfter⟩ := (standsFor_iff_of_quote starts).1 stands
          refine (standsFor_iff_of_quote longer).2 ⟨after ++ blank, ?_, ?_⟩
          · rw [reads, read]
            rfl
          · rw [isBlank_append, blankAfter, isBlank]
            rfl
      · refine ⟨empty, fun _ => ⟨_, (standsFor_iff_of_bare starts quoted).2 rfl⟩,
          fun element stands => ?_⟩
        rw [standsFor_iff_of_bare starts quoted] at stands
        rw [id, standsFor_iff_of_bare longer quoted, trim_append_of_isBlank isBlank]
        exact stands

theorem segments_blank_append (solid : isSpace delimiter = false) (isBlank : isBlank blank = true)
    (text : List Char) :
    segments delimiter (blank ++ text) = (segments delimiter text).modifyHead (blank ++ ·) := by
  induction blank with
  | nil => cases pieces : segments delimiter text <;> simp [pieces]
  | cons c blank ih =>
      have blanks : isSpace c = true ∧ Text.isBlank blank = true := by
        simpa [Text.isBlank] using isBlank
      have other : c ≠ delimiter := by
        rintro rfl
        rw [blanks.1] at solid
        cases solid
      have opens : c ≠ quote := by
        rintro rfl
        exact Bool.noConfusion (isSpace_quote.symm.trans blanks.1)
      have inside := ih blanks.2
      rw [segments] at inside ⊢
      rw [List.cons_append, cut_space other opens blanks.1, inside, List.modifyHead_modifyHead]
      rfl

/-- Text without a delimiter belongs to the last segment of the text in front of it. -/
theorem exists_cut_append_of_not_mem {behind : List Char} (free : delimiter ∉ behind) (mode : Mode)
    (text : List Char) :
    ∃ front last, cut delimiter mode text = front ++ [last] ∧
      cut delimiter mode (text ++ behind) = front ++ [last ++ behind] := by
  induction text generalizing mode with
  | nil =>
      refine ⟨[], [], rfl, ?_⟩
      rw [List.nil_append, List.nil_append]
      induction behind generalizing mode with
      | nil => rfl
      | cons c behind ih =>
          have other : c ≠ delimiter := fun same => free (same ▸ List.mem_cons_self)
          rw [cut, if_neg fun cuts => other cuts.1,
            ih fun member => free (List.mem_cons_of_mem c member)]
          rfl
  | cons c text ih =>
      obtain ⟨front, last, pieces, longer⟩ := ih (mode.next delimiter c)
      rw [List.cons_append, cut, cut, pieces, longer]
      split
      · exact ⟨[] :: front, last, rfl, rfl⟩
      · cases front with
        | nil => exact ⟨[], c :: last, rfl, rfl⟩
        | cons piece front => exact ⟨(c :: piece) :: front, last, rfl, rfl⟩

theorem forall₂_corresponds_refl (pieces : List (List Char)) :
    List.Forall₂ (Corresponds id) pieces pieces :=
  List.forall₂_same.2 fun segment _ => Corresponds.refl segment

/-- White space in front of a text is not seen when it is split. -/
theorem toOption_split_blank_append (notQuote : delimiter ≠ quote)
    (solid : isSpace delimiter = false) (isBlank : isBlank blank = true) (text : List Char) :
    (split delimiter (blank ++ text)).toOption = (split delimiter text).toOption := by
  have each : List.Forall₂ (Corresponds id) (segments delimiter text)
      (segments delimiter (blank ++ text)) := by
    rw [segments_blank_append solid isBlank]
    cases segments delimiter text with
    | nil => exact .nil
    | cons first others =>
        exact .cons (corresponds_blank_append isBlank first) (forall₂_corresponds_refl others)
  rw [toOption_split_of_forall₂ notQuote each, List.map_id_fun, Option.map_id_fun, id]

/-- White space behind a text is not seen when it is split. -/
theorem toOption_split_append_blank (notQuote : delimiter ≠ quote)
    (solid : isSpace delimiter = false) (isBlank : isBlank blank = true) (text : List Char) :
    (split delimiter (text ++ blank)).toOption = (split delimiter text).toOption := by
  have free : delimiter ∉ blank := by
    intro member
    have space := List.all_eq_true.1 isBlank delimiter member
    rw [solid] at space
    cases space
  obtain ⟨front, last, pieces, longer⟩ := exists_cut_append_of_not_mem free .lead text
  have each : List.Forall₂ (Corresponds id) (segments delimiter text)
      (segments delimiter (text ++ blank)) := by
    rw [segments, segments, pieces, longer]
    exact List.rel_append (forall₂_corresponds_refl front)
      (.cons (corresponds_append_blank isBlank last) .nil)
  rw [toOption_split_of_forall₂ notQuote each, List.map_id_fun, Option.map_id_fun, id]

/-- Splitting does not see the white space at the ends of a text. -/
theorem toOption_split_trim (notQuote : delimiter ≠ quote) (solid : isSpace delimiter = false)
    (text : List Char) :
    (split delimiter (trim text)).toOption = (split delimiter text).toOption := by
  obtain ⟨before, after, blankBefore, blankAfter, whole⟩ := exists_eq_append_trim text
  conv_rhs => rw [whole]
  rw [toOption_split_append_blank notQuote solid blankAfter,
    toOption_split_blank_append notQuote solid blankBefore]

end

/-! ### Changes of single characters -/

/-- The change of characters makes and unmakes no quote, no delimiter and no white space. -/
structure Spares (delimiter : Char) (change : Char → Char) : Prop where
  quote_iff : ∀ c, change c = quote ↔ c = quote
  delimiter_iff : ∀ c, change c = delimiter ↔ c = delimiter
  isSpace_eq : ∀ c, isSpace (change c) = isSpace c

section

variable {delimiter : Char} {change : Char → Char}

theorem trimStart_map (isSpace_eq : ∀ c, isSpace (change c) = isSpace c) (text : List Char) :
    trimStart (text.map change) = (trimStart text).map change := by
  have same : isSpace ∘ change = isSpace := funext isSpace_eq
  rw [trimStart, List.dropWhile_map, same, trimStart]

theorem trim_map (isSpace_eq : ∀ c, isSpace (change c) = isSpace c) (text : List Char) :
    trim (text.map change) = (trim text).map change := by
  have behind := trimStart_map isSpace_eq (trimStart text).reverse
  unfold trimStart at behind
  rw [trim, trimStart_map isSpace_eq, trim, trimEnd, trimEnd, ← List.map_reverse, trimStart,
    behind, List.map_reverse]

theorem isBlank_map (isSpace_eq : ∀ c, isSpace (change c) = isSpace c) (text : List Char) :
    isBlank (text.map change) = isBlank text := by
  rw [isBlank, List.all_map]
  exact congrArg text.all (funext isSpace_eq)

namespace Spares

theorem next_eq (spares : Spares delimiter change) (mode : Mode) (c : Char) :
    mode.next delimiter (change c) = mode.next delimiter c := by
  cases mode <;>
    simp only [Mode.next, spares.quote_iff, spares.delimiter_iff, spares.isSpace_eq]

theorem cut_map (spares : Spares delimiter change) (mode : Mode) (text : List Char) :
    cut delimiter mode (text.map change) = (cut delimiter mode text).map (List.map change) := by
  induction text generalizing mode with
  | nil => rfl
  | cons c text ih =>
      rw [List.map_cons, cut, cut, spares.next_eq, ih]
      simp only [spares.delimiter_iff]
      split
      · rfl
      · cases cut delimiter (mode.next delimiter c) text <;> rfl

theorem readQuoted_map (spares : Spares delimiter change) (text : List Char) :
    readQuoted (text.map change) =
      (readQuoted text).map fun found => (found.1.map change, found.2.map change) := by
  have fixed : change quote = quote := (spares.quote_iff quote).2 rfl
  fun_induction readQuoted text with
  | case1 => rfl
  | case2 => simp [readQuoted, fixed]
  | case3 c other => simp [readQuoted, spares.quote_iff, other]
  | case4 rest ih =>
      rw [List.map_cons, List.map_cons, fixed, readQuoted, if_pos rfl, if_pos rfl, ih]
      cases readQuoted rest with
      | none => rfl
      | some found => simp [fixed]
  | case5 next rest other =>
      have other' : change next ≠ quote := mt (spares.quote_iff next).1 other
      rw [List.map_cons, List.map_cons, fixed, readQuoted, if_pos rfl, if_neg other']
      rfl
  | case6 c next rest other ih =>
      have other' : change c ≠ quote := mt (spares.quote_iff c).1 other
      rw [List.map_cons] at ih
      rw [List.map_cons, List.map_cons, readQuoted, if_neg other', ih]
      cases readQuoted (next :: rest) <;> rfl

/-- A segment and its element are changed alike. -/
theorem corresponds (spares : Spares delimiter change) (segment : List Char) :
    Corresponds (List.map change) segment (segment.map change) := by
  have blank := isBlank_map spares.isSpace_eq segment
  have trimmed := trimStart_map spares.isSpace_eq segment
  cases starts : trimStart segment with
  | nil =>
      have all : isBlank segment = true := trimStart_eq_nil_iff.1 starts
      refine ⟨blank, fun _ => ⟨[], .blank all⟩, fun element stands => ?_⟩
      rw [standsFor_iff_of_nil starts] at stands
      rw [stands]
      exact .blank (blank.trans all)
  | cons c rest =>
      rw [starts, List.map_cons] at trimmed
      by_cases quoted : c = quote
      · subst quoted
        rw [(spares.quote_iff quote).2 rfl] at trimmed
        have reads := spares.readQuoted_map rest
        refine ⟨blank, ?_, ?_⟩
        · rintro ⟨element, stands⟩
          obtain ⟨after, read, blankAfter⟩ := (standsFor_iff_of_quote trimmed).1 stands
          rw [reads] at read
          obtain ⟨⟨content, behind⟩, found, same⟩ := Option.map_eq_some_iff.1 read
          cases same
          rw [isBlank_map spares.isSpace_eq] at blankAfter
          exact ⟨content, (standsFor_iff_of_quote starts).2 ⟨behind, found, blankAfter⟩⟩
        · intro element stands
          obtain ⟨after, read, blankAfter⟩ := (standsFor_iff_of_quote starts).1 stands
          refine (standsFor_iff_of_quote trimmed).2 ⟨after.map change, ?_, ?_⟩
          · rw [reads, read]
            rfl
          · rwa [isBlank_map spares.isSpace_eq]
      · have other : change c ≠ quote := mt (spares.quote_iff c).1 quoted
        refine ⟨blank, fun _ => ⟨_, (standsFor_iff_of_bare starts quoted).2 rfl⟩,
          fun element stands => ?_⟩
        rw [standsFor_iff_of_bare starts quoted] at stands
        rw [standsFor_iff_of_bare trimmed other, trim_map spares.isSpace_eq, stands]

/-- A changed text is split to the changed elements. -/
theorem toOption_split_map (spares : Spares delimiter change) (notQuote : delimiter ≠ quote)
    (text : List Char) :
    (split delimiter (text.map change)).toOption =
      (split delimiter text).toOption.map (List.map (List.map change)) := by
  apply toOption_split_of_forall₂ notQuote
  rw [segments, segments, spares.cut_map]
  refine List.forall₂_map_right_iff.2 (List.forall₂_same.2 fun segment _ => ?_)
  exact spares.corresponds segment

end Spares

end

end Settings.Text
