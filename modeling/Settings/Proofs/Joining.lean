import Settings.Proofs.Items
import Settings.Proofs.Splitting.Joining

/-!
Texts of lists and of maps that are joined by a comma.

The elements of the joined text are those of its parts, in order, and they are read one after
the other.  So the values of the parts make up the value of the joined text, and the first part
that fails makes the joined text fail.
-/

namespace Settings

open Text (EndsElement BeginsElement Unclosed)

section

variable {front back : String}

theorem toList_joined (front back : String) :
    (front ++ "," ++ back).toList = front.toList ++ elementDelimiter :: back.toList := by
  simp [elementDelimiter]

section

variable (ends : EndsElement elementDelimiter front.toList)
  (begins : BeginsElement elementDelimiter back.toList)

include ends begins

theorem splitText_joined {items others : List String}
    (frontSplits : splitText elementDelimiter front = .ok items)
    (backSplits : splitText elementDelimiter back = .ok others) :
    splitText elementDelimiter (front ++ "," ++ back) = .ok (items ++ others) := by
  rw [splitText_eq_ok_iff] at frontSplits backSplits ⊢
  rw [toList_joined, List.map_append]
  exact Text.split_append_delimiter (by decide) (by decide) ends begins frontSplits backSplits

theorem exists_of_splitText_joined
    (closed : ∀ position, ¬Unclosed elementDelimiter front.toList position)
    {joined : List String}
    (splits : splitText elementDelimiter (front ++ "," ++ back) = .ok joined) :
    ∃ items others, splitText elementDelimiter front = .ok items ∧
      splitText elementDelimiter back = .ok others ∧ joined = items ++ others := by
  have whole := splitText_eq_ok_iff.1 splits
  rw [toList_joined] at whole
  obtain ⟨⟨items, frontSplits⟩, others, backSplits⟩ :=
    (Text.exists_split_append_delimiter_iff (by decide) closed).1 ⟨_, whole⟩
  have frontRead := splitText_eq_ok frontSplits
  have backRead := splitText_eq_ok backSplits
  rw [splitText_joined ends begins frontRead backRead] at splits
  exact ⟨_, _, frontRead, backRead, (Except.ok.inj splits).symm⟩

end

section

variable {β : Type} {tag : Tag} {read : String → Outcome ConversionError β}
  {make : List β → Value}

/-- The items of joined texts that are both read make up one value. -/
theorem ReadsItems.coerce_joined (reads : ReadsItems tag read make)
    (ends : EndsElement elementDelimiter front.toList)
    (begins : BeginsElement elementDelimiter back.toList) {first second : Value}
    (frontReads : coerce tag (.text front) = .ok first)
    (backReads : coerce tag (.text back) = .ok second) :
    ∃ values others, first = make values ∧ second = make others ∧
      coerce tag (.text (front ++ "," ++ back)) = .ok (make (values ++ others)) := by
  obtain ⟨items, values, frontSplits, frontEach, rfl⟩ := reads.coerce_eq_ok_iff.1 frontReads
  obtain ⟨items', others, backSplits, backEach, rfl⟩ := reads.coerce_eq_ok_iff.1 backReads
  refine ⟨values, others, rfl, rfl, reads.coerce_eq_ok_iff.2
    ⟨items ++ items', values ++ others, ?_, ?_, rfl⟩⟩
  · exact splitText_joined ends begins frontSplits backSplits
  · exact mapM_append_eq_ok_iff.2 ⟨values, others, frontEach, backEach, rfl⟩

/-- The joined text is not read if one of its parts is not, and it is abandoned only where its
first part is, or in its second part once the first one has been read. -/
structure FailsWithParts (tag : Tag) (front back : String) : Prop where
  fails : (¬∃ value, coerce tag (.text front) = .ok value) ∨
      (¬∃ value, coerce tag (.text back) = .ok value) →
    ¬∃ value, coerce tag (.text (front ++ "," ++ back)) = .ok value
  abandoned : Outcome.Aborts (coerce tag (.text (front ++ "," ++ back))) →
    Outcome.Aborts (coerce tag (.text front)) ∨
      (∃ value, coerce tag (.text front) = .ok value) ∧
        Outcome.Aborts (coerce tag (.text back))

theorem ReadsItems.failsWithParts (reads : ReadsItems tag read make)
    (ends : EndsElement elementDelimiter front.toList)
    (begins : BeginsElement elementDelimiter back.toList)
    (closed : ∀ position, ¬Unclosed elementDelimiter front.toList position) :
    FailsWithParts tag front back where
  fails := by
    rintro unread ⟨value, joined⟩
    obtain ⟨listed, values, splits, each, -⟩ := reads.coerce_eq_ok_iff.1 joined
    obtain ⟨items, others, frontSplits, backSplits, rfl⟩ :=
      exists_of_splitText_joined ends begins closed splits
    obtain ⟨first, second, frontEach, backEach, -⟩ := mapM_append_eq_ok_iff.1 each
    rcases unread with unread | unread
    · exact unread ⟨_, reads.coerce_eq_ok_iff.2 ⟨items, first, frontSplits, frontEach, rfl⟩⟩
    · exact unread ⟨_, reads.coerce_eq_ok_iff.2 ⟨others, second, backSplits, backEach, rfl⟩⟩
  abandoned := by
    intro joined
    obtain ⟨listed, splits, cause, aborts⟩ := reads.aborts_iff.1 joined
    obtain ⟨items, others, frontSplits, backSplits, rfl⟩ :=
      exists_of_splitText_joined ends begins closed splits
    rw [List.mapM_append] at aborts
    cases each : items.mapM read with
    | error stop =>
        rw [each] at aborts
        cases aborts
        exact .inl (reads.aborts_iff.2 ⟨items, frontSplits, cause, each⟩)
    | ok values =>
        refine .inr ⟨⟨_, reads.coerce_eq_ok_iff.2 ⟨items, values, frontSplits, each, rfl⟩⟩, ?_⟩
        rw [each, ok_bind] at aborts
        exact reads.aborts_iff.2 ⟨others, backSplits, Outcome.aborts_map_iff.1 ⟨cause, aborts⟩⟩

end

/-! ### Lists and maps -/

theorem coerce_list_joined
    (ends : EndsElement elementDelimiter front.toList)
    (begins : BeginsElement elementDelimiter back.toList) {element : Tag}
    {first second : List Value}
    (frontReads : coerce (.list element) (.text front) = .ok (.list first))
    (backReads : coerce (.list element) (.text back) = .ok (.list second)) :
    coerce (.list element) (.text (front ++ "," ++ back)) = .ok (.list (first ++ second)) := by
  have scalar := Value.flat_of_coerce frontReads element rfl
  obtain ⟨values, others, same, same', joined⟩ :=
    (readsItems_list scalar).coerce_joined ends begins frontReads backReads
  cases same
  cases same'
  exact joined

theorem coerce_map_joined
    (ends : EndsElement elementDelimiter front.toList)
    (begins : BeginsElement elementDelimiter back.toList) {first second : Table String}
    (frontReads : coerce .map (.text front) = .ok (.map first))
    (backReads : coerce .map (.text back) = .ok (.map second)) :
    coerce .map (.text (front ++ "," ++ back)) = .ok (.map (first.override second)) := by
  obtain ⟨entries, others, same, same', joined⟩ :=
    readsItems_map.coerce_joined ends begins frontReads backReads
  cases same
  cases same'
  rw [joined, Table.ofList_append]

/-- No text is read as a list of lists, and none is abandoned. -/
theorem failsWithParts_of_isList {element : Tag} (nested : element.isList = true) :
    FailsWithParts (.list element) front back where
  fails := by
    rintro - ⟨value, reads⟩
    rw [coerce, if_pos nested] at reads
    cases Outcome.eq_ok_of_maskedIf reads
  abandoned := by
    intro aborts
    rw [coerce, if_pos nested, Outcome.aborts_maskedIf_iff] at aborts
    exact absurd aborts Outcome.not_aborts_failed

/-- A comma between two texts joins the lists that they are read as, and the map of the second
text overrides that of the first, where an element ends the first text and another one begins the
second.  If one of them is not read, neither is the joined text, unless the first one leaves a
quoted run open. -/
theorem coerce_joined_texts (ends : EndsElement elementDelimiter front.toList)
    (begins : BeginsElement elementDelimiter back.toList) :
    (∀ element first second, coerce (.list element) (.text front) = .ok (.list first) →
      coerce (.list element) (.text back) = .ok (.list second) →
        coerce (.list element) (.text (front ++ "," ++ back)) = .ok (.list (first ++ second))) ∧
    (∀ first second, coerce .map (.text front) = .ok (.map first) →
      coerce .map (.text back) = .ok (.map second) →
        coerce .map (.text (front ++ "," ++ back)) = .ok (.map (first.override second)) ∧
          ∀ key, (first.override second).get? key = (second.get? key).or (first.get? key)) ∧
    ((∀ position, ¬Unclosed elementDelimiter front.toList position) →
      ∀ tag, tag = .map ∨ tag.isList = true → FailsWithParts tag front back) := by
  refine ⟨?lists, ?maps, ?failures⟩
  case lists =>
    intro element first second frontReads backReads
    exact coerce_list_joined ends begins frontReads backReads
  case maps =>
    intro first second frontReads backReads
    exact ⟨coerce_map_joined ends begins frontReads backReads,
      fun key => Table.get?_override first second key⟩
  case failures =>
    rintro closed tag (rfl | isList)
    · exact readsItems_map.failsWithParts ends begins closed
    · cases tag with
      | list element =>
          cases nested : element.isList with
          | true => exact failsWithParts_of_isList nested
          | false => exact (readsItems_list nested).failsWithParts ends begins closed
      | _ => cases isList

/-- A run that the first text leaves open takes the comma in, and the second text closes it. -/
example : splitText elementDelimiter ("'a" ++ "," ++ "b'") = .ok ["a,b"] := by cbv

/-- Two lists of numbers, two maps with a key in common, and a list whose second part is no
number. -/
theorem coerce_joined_texts_samples :
    coerce (.list .int) (.text ("1, '2'" ++ "," ++ "3,")) =
        .ok (.list [.int 1, .int 2, .int 3]) ∧
      (∃ merged, coerce .map (.text ("k:1,l:2 " ++ "," ++ "k:3")) = .ok (.map merged) ∧
        merged.get? "k" = some "3") ∧
      ¬∃ value, coerce (.list .int) (.text ("1, '2'" ++ "," ++ "x")) = .ok value := by
  have ends : EndsElement elementDelimiter "1, '2'".toList := ⟨'\'', by decide, by decide⟩
  have integers := @readsItems_list .int rfl
  refine ⟨?lists, ?maps, ?failures⟩
  case lists =>
    have begins : BeginsElement elementDelimiter "3,".toList := ⟨'3', by decide, by decide⟩
    have first : coerce (.list .int) (.text "1, '2'") = .ok (.list [.int 1, .int 2]) :=
      integers.coerce_eq_ok_iff.2 ⟨["1", "2"], [.int 1, .int 2], by cbv, rfl, rfl⟩
    have second : coerce (.list .int) (.text "3,") = .ok (.list [.int 3]) :=
      integers.coerce_eq_ok_iff.2 ⟨["3"], [.int 3], by cbv, rfl, rfl⟩
    exact (coerce_joined_texts ends begins).1 .int _ _ first second
  case maps =>
    have ends : EndsElement elementDelimiter "k:1,l:2 ".toList := ⟨'2', by decide, by decide⟩
    have begins : BeginsElement elementDelimiter "k:3".toList := ⟨'k', by decide, by decide⟩
    have first : coerce .map (.text "k:1,l:2 ") =
        .ok (.map (Table.ofList [("k", "1"), ("l", "2")])) :=
      readsItems_map.coerce_eq_ok_iff.2 ⟨["k:1", "l:2"], _, by cbv, by cbv, rfl⟩
    have second : coerce .map (.text "k:3") = .ok (.map (Table.ofList [("k", "3")])) :=
      readsItems_map.coerce_eq_ok_iff.2 ⟨["k:3"], _, by cbv, by cbv, rfl⟩
    obtain ⟨joined, later⟩ := (coerce_joined_texts ends begins).2.1 _ _ first second
    exact ⟨_, joined, later "k"⟩
  case failures =>
    have begins : BeginsElement elementDelimiter "x".toList := ⟨'x', by decide, by decide⟩
    have closed : ∀ position, ¬Unclosed elementDelimiter "1, '2'".toList position := by
      intro position unclosed
      exact absurd unclosed.behind (by decide)
    have parts := (coerce_joined_texts ends begins).2.2 closed (.list .int) (.inr rfl)
    refine parts.fails (.inr ?_)
    rintro ⟨value, reads⟩
    obtain ⟨items, values, splits, each, -⟩ := integers.coerce_eq_ok_iff.1 reads
    have alone : splitText elementDelimiter "x" = .ok ["x"] := by cbv
    rw [alone] at splits
    cases splits
    cases each

end

end Settings
