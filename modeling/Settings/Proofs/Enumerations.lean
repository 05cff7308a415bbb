import Settings.Proofs.StoreRuns

/-!
Variants of enumerations in a store.

Writing goes from a variant over its position to the name of a member, and reading from a
name over the position of the member to a variant.  The two lists are aligned by position
alone, so a write is refused where the list of members is too short (`Enumeration.Lacks`),
and a read where the list of variants is.  In a set in which names tell members apart
(`EnumSet.WellNamed`), at most one position answers to a text, and what was written is read
back.
-/

namespace Settings

/-! ### Names and positions -/

namespace EnumSet

variable {set : EnumSet}

/-- The member at the index has the name that the text spells, but for case and for white space
at its ends. -/
def Answers (set : EnumSet) (text : String) (index : Nat) : Prop :=
  ∃ name, set.members[index]? = some name ∧
    Text.upper name.toList = Text.upper (Text.trim text.toList)

theorem Answers.lt_length {text : String} {index : Nat} (answers : set.Answers text index) :
    index < set.members.length := by
  obtain ⟨name, listed, -⟩ := answers
  exact (List.getElem?_eq_some_iff.1 listed).1

/-- Names that tell members apart leave one position to a text at most. -/
theorem WellNamed.answers_unique (wellNamed : set.WellNamed) {text : String} {index other : Nat}
    (answers : set.Answers text index) (answers' : set.Answers text other) : index = other := by
  have apart : ∀ {low high : Nat}, set.Answers text low → set.Answers text high →
      ¬low < high := by
    rintro low high ⟨name, listed, same⟩ ⟨name', listed', same'⟩ before
    obtain ⟨valid, rfl⟩ := List.getElem?_eq_some_iff.1 listed
    obtain ⟨valid', rfl⟩ := List.getElem?_eq_some_iff.1 listed'
    have alike := sameName_iff.2 (same.trans same'.symm)
    rw [wellNamed.not_sameName valid valid' before] at alike
    cases alike
  exact Nat.le_antisymm (Nat.not_lt.1 (apart answers' answers))
    (Nat.not_lt.1 (apart answers answers'))

/-- The name of a member answers for the member. -/
theorem WellNamed.answers_name {member : EnumMember} (wellNamed : member.set.WellNamed) :
    member.set.Answers member.name member.index := by
  have listed : member.set.members[member.index]? = some member.name :=
    List.getElem?_eq_getElem member.valid
  refine ⟨member.name, listed, ?_⟩
  rw [wellNamed.trimmed _ (List.mem_of_getElem? listed)]

/-- Looking up a text finds the member at the position that answers to it. -/
theorem WellNamed.lookup_of_answers (wellNamed : set.WellNamed) {text : String} {index : Nat}
    (answers : set.Answers text index) :
    set.lookup (String.ofList (Text.trim text.toList)) =
      some ⟨set, index, answers.lt_length⟩ := by
  rw [lookup_eq_some_iff]
  refine ⟨rfl, ?_, ?_⟩
  · rw [String.toList_ofList]
    exact answers
  · intro earlier before other listed same
    rw [String.toList_ofList] at same
    exact Nat.ne_of_lt before (wellNamed.answers_unique ⟨other, listed, same⟩ answers)

theorem lookup_eq_none_iff {text : String} :
    set.lookup (String.ofList (Text.trim text.toList)) = none ↔
      ∀ index, ¬set.Answers text index := by
  rw [lookup_eq_none_iff_forall_mem, String.toList_ofList]
  constructor
  · rintro unlisted index ⟨name, listed, same⟩
    exact unlisted name (List.mem_of_getElem? listed) same
  · intro unanswered name member same
    obtain ⟨index, listed⟩ := List.mem_iff_getElem?.1 member
    exact unanswered index ⟨name, listed, same⟩

end EnumSet

namespace Enumeration

variable {α : Type} [DecidableEq α] {enumeration : Enumeration α} {variant : α}

/-- The variant is not listed, or no member stands at its first position. -/
def Lacks (enumeration : Enumeration α) (variant : α) : Prop :=
  variant ∉ enumeration.variants ∨
    enumeration.set.members.length ≤ enumeration.variants.idxOf variant

/-- The member that a variant is written as. -/
def member? (enumeration : Enumeration α) (variant : α) : Option EnumMember :=
  (enumeration.variants.idxOf? variant).bind enumeration.set.member?

theorem member?_eq_none_iff : enumeration.member? variant = none ↔ enumeration.Lacks variant := by
  unfold member? Lacks
  cases first : enumeration.variants.idxOf? variant with
  | none => exact iff_of_true rfl (.inl (List.idxOf?_eq_none_iff.1 first))
  | some index =>
      obtain ⟨listed, same⟩ := List.findIdx?_eq_some_iff_findIdx_eq.1 first
      have position : enumeration.variants.idxOf variant = index := same
      have member : variant ∈ enumeration.variants := by
        rwa [← List.idxOf_lt_length_iff, position]
      rw [Option.bind_some, EnumSet.member?, position]
      split
      · next valid =>
          refine iff_of_false (by rintro ⟨⟩) ?_
          rintro (absent | beyond)
          · exact absent member
          · exact Nat.not_le.2 valid beyond
      · next beyond => exact iff_of_true rfl (.inr (Nat.not_lt.1 beyond))

/-- A variant is written as the member at its position, which is that of the variant. -/
theorem of_member?_eq_some {member : EnumMember}
    (found : enumeration.member? variant = some member) :
    member.set = enumeration.set ∧ member.index = enumeration.variants.idxOf variant ∧
      enumeration.variants[member.index]? = some variant := by
  obtain ⟨index, first, placed⟩ := Option.bind_eq_some_iff.1 found
  rw [EnumSet.member?] at placed
  split at placed
  · cases placed
    obtain ⟨-, position⟩ := List.findIdx?_eq_some_iff_findIdx_eq.1 first
    obtain ⟨listed, same, -⟩ := List.idxOf?_eq_some_iff.1 first
    exact ⟨rfl, position.symm, List.getElem?_eq_some_iff.2 ⟨listed, same⟩⟩
  · cases placed

end Enumeration

/-! ### Writing and reading variants -/

namespace Store

variable {α : Type}

/-- The outcome is an error of a kind about the text under a key. -/
def Refuses (key : String) (kind : ConversionError.Kind) (outcome : Outcome StoreError α) : Prop :=
  ∃ cause, outcome = .error (.failed (.conversion key cause)) ∧ cause.kind = kind

section

variable {store : Store} {enumeration : Enumeration α} {key text : String}

/-- A text that no position answers to is unreadable. -/
theorem getVariant_of_lookup_none (present : store.raw? key = some text)
    (unknown : enumeration.set.lookup (String.ofList (Text.trim text.toList)) = none) :
    store.getVariant enumeration key =
      .error (.failed (.conversion key (.unreadable text (.member enumeration.set.name)
        (.notMember enumeration.set.members)))) := by
  have reads : coerce (.member enumeration.set) (.text text) =
      .error (.failed (.unreadable text (.member enumeration.set.name)
        (.notMember enumeration.set.members))) := by
    have fails : readAs (.member enumeration.set.name) (Literal.readMember enumeration.set) text =
        .error (.failed (.unreadable text (.member enumeration.set.name)
          (.notMember enumeration.set.members))) := by
      rw [readAs_eq_unreadable_iff, Literal.readMember, unknown]
    have plain : coerce (.member enumeration.set) (.text text) =
        (readAs (.member enumeration.set.name) (Literal.readMember enumeration.set) text).map
          .member := rfl
    rw [plain, fails]
    rfl
  rw [getVariant, getValue, present]
  dsimp only
  rw [reads]
  rfl

/-- A text that names a member is read as the variant at its position, if there is one. -/
theorem getVariant_of_lookup {member : EnumMember} (present : store.raw? key = some text)
    (found : enumeration.set.lookup (String.ofList (Text.trim text.toList)) = some member) :
    store.getVariant enumeration key =
      match enumeration.variants[member.index]? with
      | some variant => .ok (some variant)
      | none => .error (.failed (unsupported key (.member enumeration.set))) := by
  have reads : coerce (.member enumeration.set) (.text text) = .ok (.member member) := by
    have succeeds : readAs (.member enumeration.set.name)
        (Literal.readMember enumeration.set) text = .ok member := by
      rw [readAs_eq_ok_iff, Literal.readMember, found]
    exact Outcome.maskedIf_map_of_ok succeeds _ _
  have value : store.getValue key (.member enumeration.set) = .ok (some (.member member)) := by
    rw [getValue, present]
    dsimp only
    rw [reads]
    rfl
  rw [getVariant, value, ok_bind]
  dsimp only
  cases enumeration.variants[member.index]? <;> rfl

/-- How the text under a key is read as a variant, by the positions that answer to it. -/
structure ReadsVariant (enumeration : Enumeration α) (key text : String)
    (outcome : Outcome StoreError (Option α)) : Prop where
  unreadable : Refuses key .unreadable outcome ↔
    ∀ index, ¬enumeration.set.Answers text index
  unsupported : Refuses key .unsupported outcome ↔
    ∃ index, enumeration.set.Answers text index ∧ enumeration.variants.length ≤ index
  reads : ∀ variant, outcome = .ok (some variant) ↔
    ∃ index, enumeration.set.Answers text index ∧ enumeration.variants[index]? = some variant

theorem readsVariant_getVariant (wellNamed : enumeration.set.WellNamed)
    (present : store.raw? key = some text) :
    ReadsVariant enumeration key text (store.getVariant enumeration key) := by
  cases found : enumeration.set.lookup (String.ofList (Text.trim text.toList)) with
  | none =>
      have unknown := EnumSet.lookup_eq_none_iff.1 found
      rw [getVariant_of_lookup_none present found]
      refine ⟨iff_of_true ⟨_, rfl, rfl⟩ unknown, iff_of_false ?_ ?_, fun variant => ?_⟩
      · rintro ⟨cause, ⟨⟩, ⟨⟩⟩
      · exact fun answered => unknown _ answered.choose_spec.1
      · exact iff_of_false (by rintro ⟨⟩) fun answered => unknown _ answered.choose_spec.1
  | some member =>
      have known : ∃ index, enumeration.set.Answers text index := by
        by_contra none
        rw [EnumSet.lookup_eq_none_iff.2 (not_exists.1 none)] at found
        cases found
      obtain ⟨index, answers⟩ := known
      have same := wellNamed.lookup_of_answers answers
      rw [found] at same
      cases same
      have only : ∀ {other}, enumeration.set.Answers text other → other = index :=
        fun answers' => wellNamed.answers_unique answers' answers
      rw [getVariant_of_lookup present found]
      dsimp only
      cases placed : enumeration.variants[index]? with
      | none =>
          have beyond := List.getElem?_eq_none_iff.1 placed
          refine ⟨iff_of_false ?_ fun unknown => unknown index answers,
            iff_of_true ⟨_, rfl, rfl⟩ ⟨index, answers, beyond⟩, fun variant => ?_⟩
          · rintro ⟨cause, ⟨⟩, ⟨⟩⟩
          · refine iff_of_false (by rintro ⟨⟩) ?_
            rintro ⟨other, answers', listed⟩
            rw [only answers', placed] at listed
            cases listed
      | some found =>
          refine ⟨iff_of_false ?_ fun unknown => unknown index answers, iff_of_false ?_ ?_,
            fun variant => ?_⟩
          · rintro ⟨cause, ⟨⟩, -⟩
          · rintro ⟨cause, ⟨⟩, -⟩
          · rintro ⟨other, answers', beyond⟩
            rw [only answers'] at beyond
            rw [List.getElem?_eq_none beyond] at placed
            cases placed
          · constructor
            · rintro ⟨⟩
              exact ⟨index, answers, placed⟩
            · rintro ⟨other, answers', listed⟩
              rw [only answers', placed] at listed
              cases listed
              rfl

end

section

variable [DecidableEq α] (store : Store) {enumeration : Enumeration α} (key : String)
  {variant : α}

theorem setVariant_of_none (unnamed : enumeration.member? variant = none) :
    store.setVariant enumeration key variant =
      (.error (unsupported key (.member enumeration.set)), store) := by
  rw [Enumeration.member?] at unnamed
  rw [setVariant, unnamed]

theorem setVariant_of_some {member : EnumMember}
    (found : enumeration.member? variant = some member) :
    store.setVariant enumeration key variant = (.ok (), store.setText key member.name) := by
  rw [Enumeration.member?] at found
  rw [setVariant, found]
  rfl

/-- How a write of a variant ends, and the store after it. -/
structure WritesVariant (store : Store) (enumeration : Enumeration α) (key : String) (variant : α)
    (ends : Outcome StoreError Unit × Store) : Prop where
  refuses : (∃ stop, ends.1 = .error stop) ↔ enumeration.Lacks variant
  unchanged : enumeration.Lacks variant → Refuses key .unsupported ends.1 ∧ ends.2 = store
  writes : ¬enumeration.Lacks variant →
    ∃ name, enumeration.set.members[enumeration.variants.idxOf variant]? = some name ∧
      ∀ other, ends.2.raw? other = if other = key then some name else store.raw? other
  readsBack : ¬enumeration.Lacks variant →
    ends.2.getVariant enumeration key = .ok (some variant)

theorem writesVariant_perform (wellNamed : enumeration.set.WellNamed) (variant : α) :
    WritesVariant store enumeration key variant
      ((Operation.setVariant α enumeration key variant).perform store) := by
  cases found : enumeration.member? variant with
  | none =>
      have lacks := Enumeration.member?_eq_none_iff.1 found
      rw [Operation.perform, setVariant_of_none store key found]
      exact ⟨iff_of_true ⟨_, rfl⟩ lacks, fun _ => ⟨⟨_, rfl, rfl⟩, rfl⟩,
        fun has => absurd lacks has, fun has => absurd lacks has⟩
  | some member =>
      have has : ¬enumeration.Lacks variant := by
        rw [← Enumeration.member?_eq_none_iff, found]
        rintro ⟨⟩
      obtain ⟨inSet, position, listed⟩ := Enumeration.of_member?_eq_some found
      have named : enumeration.set.members[member.index]? = some member.name := by
        rw [← inSet]
        exact List.getElem?_eq_getElem member.valid
      have answers : enumeration.set.Answers member.name member.index := by
        rw [← inSet] at wellNamed ⊢
        exact wellNamed.answers_name
      rw [Operation.perform, setVariant_of_some store key found]
      refine ⟨iff_of_false (by rintro ⟨stop, ⟨⟩⟩) has, fun lacks => absurd lacks has,
        fun _ => ⟨member.name, by rwa [← position], fun other => raw?_setText ..⟩, fun _ => ?_⟩
      have stored : (store.setText key member.name).raw? key = some member.name :=
        (raw?_setText ..).trans (if_pos rfl)
      exact ((readsVariant_getVariant wellNamed stored).reads variant).2
        ⟨member.index, answers, listed⟩

end

/-- Variants are written as a whole or not at all, and what was written is read back.  A text is
read by the one position that answers to it: as the variant there, or as unsupported if there is
none, or as unreadable if no position answers. -/
theorem writesVariant_readsVariant [DecidableEq α] {enumeration : Enumeration α}
    (wellNamed : enumeration.set.WellNamed) (store : Store) (key : String) :
    (∀ variant, WritesVariant store enumeration key variant
      ((Operation.setVariant α enumeration key variant).perform store)) ∧
    ∀ text, store.raw? key = some text →
      ReadsVariant enumeration key text (store.getVariant enumeration key) :=
  ⟨writesVariant_perform store key wellNamed, fun _ => readsVariant_getVariant wellNamed⟩

/-- Two numbers for three members: a number that is written and read back, one that is not listed,
and a name in another case that stands for no number. -/
theorem writesVariant_readsVariant_modes :
    EnumSet.WellNamed ⟨"Mode", ["ON", "OFF", "AUTO"]⟩ ∧
      ((Operation.setVariant Nat ⟨⟨"Mode", ["ON", "OFF", "AUTO"]⟩, [1, 0]⟩ "mode" 0).perform
          empty).2.getVariant ⟨⟨"Mode", ["ON", "OFF", "AUTO"]⟩, [1, 0]⟩ "mode" =
        .ok (some 0) ∧
      ((Operation.setVariant Nat ⟨⟨"Mode", ["ON", "OFF", "AUTO"]⟩, [1, 0]⟩ "mode" 7).perform
          (empty.setText "mode" " auto ")).2 = empty.setText "mode" " auto " ∧
      Refuses "mode" .unsupported
        ((empty.setText "mode" " auto ").getVariant
          ⟨⟨"Mode", ["ON", "OFF", "AUTO"]⟩, [1, 0]⟩ "mode") := by
  have wellNamed : EnumSet.WellNamed ⟨"Mode", ["ON", "OFF", "AUTO"]⟩ := ⟨by decide, by decide⟩
  have present : (empty.setText "mode" " auto ").raw? "mode" = some " auto " :=
    (raw?_setText ..).trans (if_pos rfl)
  have general := @writesVariant_readsVariant Nat _
    ⟨⟨"Mode", ["ON", "OFF", "AUTO"]⟩, [1, 0]⟩ wellNamed
  refine ⟨wellNamed, ?written, ?refused, ?read⟩
  case written =>
    have has : ¬Enumeration.Lacks ⟨⟨"Mode", ["ON", "OFF", "AUTO"]⟩, [1, 0]⟩ 0 := by
      rintro (absent | beyond)
      · exact absent (by decide)
      · exact absurd beyond (by decide)
    exact ((general empty "mode").1 0).readsBack has
  case refused => exact (((general _ "mode").1 7).unchanged (.inl (by decide))).2
  case read =>
    exact ((general _ "mode").2 " auto " present).unsupported.2
      ⟨2, ⟨"AUTO", rfl, by decide⟩, by decide⟩

end Store

end Settings
