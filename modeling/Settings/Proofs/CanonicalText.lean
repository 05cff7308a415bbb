import Settings.Proofs.Binary.Shortest
import Settings.Proofs.Literals
import Settings.Proofs.Splitting
import Settings.Proofs.Tables
import Settings.Proofs.Traversals
import Settings.Proofs.Values

/-!
Canonical text and coercion are inverse to each other.

A scalar is read back because its literal is.  An entry of a map is a joined list of
two texts, a map is a joined list of entries and a list is a joined list of the texts
of its elements, so each level of quoting is undone by the same fact about joined
texts, however deep the levels are nested.
-/

namespace Settings

/-- The duration is read from its own text. -/
def Duration.ReadsBack (duration : Duration) : Prop :=
  readAs .duration Literal.readDuration duration.text = .ok duration

/-- The set of an enumeration in the type, if there is one, finds its members by their
names. -/
def Tag.WellNamed : Tag → Prop
  | .member set => set.WellNamed
  | .list element => element.WellNamed
  | _ => True

/-! ### Maps -/

/-- An entry of a map is read from its text. -/
theorem readEntry_renderEntry (entry : String × String) :
    readEntry (renderEntry entry) = .ok entry := by
  have joined : renderEntry entry =
      joinEscaped entryDelimiter [entryDelimiter] [entry.1, entry.2] := rfl
  rw [readEntry, joined, splitText_joinEscaped (by decide) (by decide)]
  rfl

theorem mapM_readEntry_renderEntry (entries : List (String × String)) :
    (entries.map renderEntry).mapM readEntry = .ok entries :=
  mapM_map_eq_pure fun entry _ => readEntry_renderEntry entry

/-- The parts of a joined list are split again. -/
theorem splitText_joinElements (elements : List String) :
    splitText elementDelimiter (joinElements elements) = .ok elements :=
  splitText_joinEscaped (by decide) (by decide) elements

/-- A map is read from its text. -/
theorem readMap_renderMap (entries : Table String) :
    readMap (renderMap entries) = .ok entries := by
  rw [readMap, renderMap, splitText_joinElements]
  change (do return Table.ofList (← (entries.entries.map renderEntry).mapM readEntry)) = _
  rw [mapM_readEntry_renderEntry]
  exact congrArg Except.ok (Table.ofList_entries entries)

/-! ### Values -/

/-- Where nothing fails there is nothing to mask. -/
@[simp] theorem Outcome.maskedIf_ok {α : Type} (hide : Bool) (value : α) :
    Outcome.maskedIf hide (.ok value) = .ok value := by
  cases hide <;> rfl

theorem Outcome.maskedIf_map_of_ok {α β : Type} {outcome : Outcome ConversionError α} {value : α}
    (reads : outcome = .ok value) (hide : Bool) (make : α → β) :
    Outcome.maskedIf hide (outcome.map make) = .ok (make value) := by
  rw [reads]
  exact Outcome.maskedIf_ok hide (make value)

/-- A list of scalars is coerced by coercing its elements in order. -/
theorem coerce_list {element : Tag} (scalar : element.isList = false) (raw : Value) :
    coerce (.list element) raw =
      Outcome.maskedIf ((Tag.list element).isSensitive || raw.containsSecret)
        (raw.toElements >>= fun items => (items.mapM (coerce element)).map Value.list) := by
  rw [coerce, if_neg (by simp [scalar])]
  rfl

namespace Value

/-- A scalar is read from its text. -/
theorem coerce_render_scalar {tag : Tag} {value : Value} (typed : value.HasTag tag)
    (scalar : tag.isList = false) (wellNamed : tag.WellNamed)
    (numbers : value ≠ .float .nan ∧ value ≠ .double .nan)
    (durations : ∀ duration, value = .duration duration → duration.ReadsBack) :
    coerce tag (.text value.render) = .ok value := by
  cases typed with
  | int value => exact Outcome.maskedIf_map_of_ok (Literal.readAs_readInt_ofInt value) _ _
  | long value => exact Outcome.maskedIf_map_of_ok (Literal.readAs_readLong_ofInt value) _ _
  | bool value => exact Outcome.maskedIf_map_of_ok (Literal.readAs_readBool_boolText value) _ _
  | float value =>
      have number : value ≠ .nan := fun nan => numbers.1 (congrArg Value.float nan)
      have reads := Literal.readAs_readBinary_text Format.moderate_single .float number
      exact Outcome.maskedIf_map_of_ok reads _ _
  | double value =>
      have number : value ≠ .nan := fun nan => numbers.2 (congrArg Value.double nan)
      have reads := Literal.readAs_readBinary_text Format.moderate_double .double number
      exact Outcome.maskedIf_map_of_ok reads _ _
  | text value => exact Outcome.maskedIf_ok _ _
  | secret value => exact Outcome.maskedIf_ok _ _
  | member value =>
      exact Outcome.maskedIf_map_of_ok (Literal.readAs_readMember_name wellNamed) _ _
  | duration value => exact Outcome.maskedIf_map_of_ok (durations value rfl) _ _
  | memorySize value =>
      exact Outcome.maskedIf_map_of_ok (Literal.readAs_readMemorySize_text value) _ _
  | map entries =>
      have reads : Outcome.ofExcept (readMap (renderMap entries)) = .ok entries := by
        rw [readMap_renderMap]
        rfl
      exact Outcome.maskedIf_map_of_ok reads _ _
  | list each => cases scalar

/-- A leaf of a value is read from its own text, under what is known of all the leaves. -/
theorem coerce_render_leaf {tag : Tag} {leaf value : Value} (typed : leaf.HasTag tag)
    (scalar : tag.isList = false) (wellNamed : tag.WellNamed) (inside : leaf ∈ value.leaves)
    (numbers : .float .nan ∉ value.leaves ∧ .double .nan ∉ value.leaves)
    (durations : ∀ duration, .duration duration ∈ value.leaves → duration.ReadsBack) :
    coerce tag (.text leaf.render) = .ok leaf := by
  apply coerce_render_scalar typed scalar wellNamed
  · constructor
    · rintro rfl
      exact numbers.1 inside
    · rintro rfl
      exact numbers.2 inside
  · rintro duration rfl
    exact durations duration inside

theorem renderAll_eq_map (elements : List Value) : renderAll elements = elements.map render := by
  induction elements with
  | nil => rfl
  | cons value rest ih => rw [renderAll, List.map_cons, ih]

/-- The elements of a list are read from their texts, one after the other. -/
theorem mapM_coerce_renderAll {tag : Tag} {elements : List Value}
    (each : ∀ value ∈ elements, coerce tag (.text value.render) = .ok value) :
    ((renderAll elements).map Value.text).mapM (coerce tag) = .ok elements := by
  rw [renderAll_eq_map, List.map_map]
  exact mapM_map_eq_pure each

/-- A text with the canonical form of a list has the texts of the elements as its elements. -/
theorem toElements_render_list (elements : List Value) :
    toElements (.text (render (.list elements))) = .ok ((renderAll elements).map .text) := by
  rw [toElements, render, render, splitText_joinElements]
  · rfl
  · intro elements list
    cases list

/-- A list is read from its text if each of its elements is read from its own. -/
theorem coerce_render_list {element : Tag} {elements : List Value}
    (scalar : element.isList = false)
    (each : ∀ value ∈ elements, coerce element (.text value.render) = .ok value) :
    coerce (.list element) (.text (render (.list elements))) = .ok (.list elements) := by
  have reads := mapM_coerce_renderAll each
  rw [coerce_list scalar, toElements_render_list]
  exact Outcome.maskedIf_map_of_ok reads _ _

/-- Every value of a type is read from its canonical text, whatever characters its texts
hold and however many elements its lists have. -/
theorem coerce_render {tag : Tag} {value : Value} (typed : value.HasTag tag)
    (flat : ∀ element, tag = .list element → element.isList = false)
    (wellNamed : tag.WellNamed)
    (numbers : .float .nan ∉ value.leaves ∧ .double .nan ∉ value.leaves)
    (durations : ∀ duration, .duration duration ∈ value.leaves → duration.ReadsBack) :
    coerce tag (.text value.render) = .ok value := by
  have scalars : ∀ leaf element, leaf.HasTag element → element.isList = false →
      element.WellNamed → leaf ∈ value.leaves →
      coerce element (.text leaf.render) = .ok leaf := by
    intro leaf element typed scalar wellNamed inside
    apply coerce_render_scalar typed scalar wellNamed
    · constructor
      · rintro rfl
        exact numbers.1 inside
      · rintro rfl
        exact numbers.2 inside
    · rintro duration rfl
      exact durations duration inside
  cases list : tag.isList with
  | false => exact scalars value tag typed list wellNamed (typed.mem_leaves list)
  | true =>
      cases typed with
      | @list elements element each =>
          have scalar := flat element rfl
          apply coerce_render_list scalar
          intro value listed
          have inside := mem_leaves_list listed ((each value listed).mem_leaves scalar)
          exact scalars value element (each value listed) scalar wellNamed inside
      | _ => cases list

/-- Two durations in a list, and a member whose name holds the delimiter of lists. -/
theorem coerce_render_samples :
    coerce (.list .duration) (.text (render (.list
        [.duration ⟨0, by decide⟩, .duration ⟨90000000000, by decide⟩]))) =
      .ok (.list [.duration ⟨0, by decide⟩, .duration ⟨90000000000, by decide⟩]) ∧
    coerce (.list (.member ⟨"Level", ["low", "mid, or so", ""]⟩)) (.text (render (.list
        [.member ⟨⟨"Level", ["low", "mid, or so", ""]⟩, 1, by decide⟩]))) =
      .ok (.list [.member ⟨⟨"Level", ["low", "mid, or so", ""]⟩, 1, by decide⟩]) := by
  constructor
  · apply coerce_render
    · apply HasTag.list
      simp [HasTag.duration]
    · intro element same
      cases same
      rfl
    · trivial
    · simp [leaves, leavesAll]
    · intro duration inside
      simp only [leaves, leavesAll, List.append_nil, List.cons_append, List.nil_append,
        List.mem_cons, Value.duration.injEq, List.not_mem_nil, or_false] at inside
      rcases inside with rfl | rfl
      · rfl
      · rfl
  · apply coerce_render
    · apply HasTag.list
      intro value listed
      rw [List.mem_singleton.1 listed]
      exact HasTag.member _
    · intro element same
      cases same
      rfl
    · exact ⟨by decide, by decide⟩
    · simp [leaves, leavesAll]
    · simp [leaves, leavesAll]

end Value

end Settings
