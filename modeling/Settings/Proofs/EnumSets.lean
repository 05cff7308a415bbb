import Settings.Value.EnumSet

/-!
The table in which a set of members is looked up.

The table is filled in one pass over the members, in which a key that is present keeps its
position (`get?_fill`).  So a name is found at the first position at which a member has the same
key, and every position in the table is that of a member.  Members may repeat and may differ
only in case: the position of a member that was found is then the first of several.
-/

namespace Settings.EnumSet

variable {set : EnumSet} {name : String} {member : EnumMember}

/-- Two names that are equal in upper case. -/
def sameName (left right : String) : Bool :=
  Text.upper left.toList == Text.upper right.toList

/-! ### Filling the table -/

theorem key_eq_iff {left right : String} :
    key left = key right ↔ Text.upper left.toList = Text.upper right.toList :=
  String.ofList_inj

theorem sameName_iff {left right : String} :
    sameName left right = true ↔ Text.upper left.toList = Text.upper right.toList :=
  beq_iff_eq

/-- After members are added from a position on, a table answers for its own keys as before, and
for other keys with the position of the first member that has the key. -/
theorem get?_fill (members : List String) (start : Nat) (table : Table Nat) (sought : String) :
    ((members.zipIdx start).foldl
        (fun table entry => table.insertNew (key entry.1) entry.2) table).get? sought =
      (table.get? sought).or
        ((members.findIdx? fun name => key name == sought).map (· + start)) := by
  induction members generalizing start table with
  | nil => simp
  | cons name members ih =>
      rw [List.zipIdx_cons, List.foldl_cons, ih, Table.get?_insertNew, Option.or_assoc,
        List.findIdx?_cons]
      by_cases same : key name = sought
      · simp [same]
      · have other : ¬sought = key name := fun equal => same equal.symm
        have shifted : (· + start) ∘ (· + 1) = fun index => index + (start + 1) := by
          funext index
          exact Nat.add_right_comm index 1 start
        simp [same, other, shifted]

/-- The table holds for each key the position of the first member that has it. -/
theorem get?_table (set : EnumSet) (sought : String) :
    set.table.get? sought = set.members.findIdx? fun name => key name == sought := by
  rw [table, get?_fill, Table.get?_empty, Option.none_or]
  simp

/-- Every position in the table is that of a member. -/
theorem lt_length_of_get?_table {sought : String} {index : Nat}
    (holds : set.table.get? sought = some index) : index < set.members.length := by
  rw [get?_table] at holds
  exact (List.findIdx?_eq_some_iff_getElem.1 holds).1

/-! ### Looking up names -/

/-- Looking up a name in the table is looking for the first member that has it. -/
theorem lookup_eq (set : EnumSet) (name : String) :
    set.lookup name = (set.members.findIdx? (sameName · name)).bind set.member? := by
  have alike : (fun other => key other == key name) = (sameName · name) := by
    funext other
    rw [Bool.eq_iff_iff, beq_iff_eq, key_eq_iff, sameName_iff]
  rw [lookup, get?_table, alike]

/-- The position of a member is the position it was asked for at. -/
theorem member?_eq_some_iff {index : Nat} :
    set.member? index = some member ↔ member.set = set ∧ member.index = index := by
  unfold member?
  constructor
  · intro placed
    split at placed
    · cases placed
      exact ⟨rfl, rfl⟩
    · cases placed
  · rintro ⟨rfl, rfl⟩
    exact dif_pos member.valid

theorem member?_eq_none_iff {index : Nat} :
    set.member? index = none ↔ set.members.length ≤ index := by
  unfold member?
  split
  · next inside => exact iff_of_false (by rintro ⟨⟩) (Nat.not_le.2 inside)
  · next outside => exact iff_of_true rfl (Nat.not_lt.1 outside)

/-- The position is the first at which a member has the name, but for case. -/
structure IsFirst (set : EnumSet) (name : String) (index : Nat) : Prop where
  named : ∃ found, set.members[index]? = some found ∧
    Text.upper found.toList = Text.upper name.toList
  least : ∀ earlier < index, ∀ other, set.members[earlier]? = some other →
    Text.upper other.toList ≠ Text.upper name.toList

/-- Names that are equal but for case have the same first position. -/
theorem IsFirst.congr {other : String} {index : Nat}
    (same : Text.upper other.toList = Text.upper name.toList) (first : set.IsFirst name index) :
    set.IsFirst other index := by
  obtain ⟨named, least⟩ := first
  rw [← same] at named least
  exact ⟨named, least⟩

theorem findIdx?_sameName_eq_some_iff {index : Nat} :
    set.members.findIdx? (sameName · name) = some index ↔ set.IsFirst name index := by
  rw [List.findIdx?_eq_some_iff_getElem]
  constructor
  · rintro ⟨valid, same, before⟩
    refine ⟨⟨_, List.getElem?_eq_getElem valid, sameName_iff.1 same⟩, ?_⟩
    intro earlier less other listed equal
    obtain ⟨inside, rfl⟩ := List.getElem?_eq_some_iff.1 listed
    exact before earlier less (sameName_iff.2 equal)
  · rintro ⟨⟨found, listed, same⟩, least⟩
    obtain ⟨valid, rfl⟩ := List.getElem?_eq_some_iff.1 listed
    refine ⟨valid, sameName_iff.2 same, ?_⟩
    intro earlier less equal
    exact least earlier less _ (List.getElem?_eq_getElem (Nat.lt_trans less valid))
      (sameName_iff.1 equal)

theorem lookup_eq_some_iff :
    set.lookup name = some member ↔ member.set = set ∧ set.IsFirst name member.index := by
  rw [lookup_eq, Option.bind_eq_some_iff]
  simp only [findIdx?_sameName_eq_some_iff, member?_eq_some_iff]
  constructor
  · rintro ⟨index, first, inSet, rfl⟩
    exact ⟨inSet, first⟩
  · rintro ⟨inSet, first⟩
    exact ⟨member.index, first, inSet, rfl⟩

theorem lookup_eq_none_iff_forall_mem :
    set.lookup name = none ↔
      ∀ other ∈ set.members, Text.upper other.toList ≠ Text.upper name.toList := by
  have silent : set.lookup name = none ↔
      set.members.findIdx? (sameName · name) = none := by
    rw [lookup_eq]
    cases found : set.members.findIdx? (sameName · name) with
    | none => exact iff_of_true rfl rfl
    | some index =>
        obtain ⟨valid, -⟩ := List.findIdx?_eq_some_iff_getElem.1 found
        rw [Option.bind_some, member?_eq_none_iff]
        exact iff_of_false (Nat.not_le.2 valid) (by rintro ⟨⟩)
  rw [silent, List.findIdx?_eq_none_iff]
  simp only [← Bool.not_eq_true, sameName_iff, ne_eq]

/-- Looking up a name in a set gives a member of that set. -/
theorem set_of_lookup (found : set.lookup name = some member) : member.set = set :=
  (lookup_eq_some_iff.1 found).1

theorem getElem?_index (inSet : member.set = set) :
    set.members[member.index]? = some member.name := by
  subst inSet
  exact List.getElem?_eq_getElem member.valid

/-- A member that is found under some name is found under its own. -/
theorem lookup_name_of_lookup (found : set.lookup name = some member) :
    set.lookup member.name = some member := by
  obtain ⟨inSet, first⟩ := lookup_eq_some_iff.1 found
  obtain ⟨spelled, listed, same⟩ := first.named
  rw [getElem?_index inSet] at listed
  cases listed
  exact lookup_eq_some_iff.2 ⟨inSet, first.congr same⟩

/-- The name of a member is that of a first member at its position or in front of it. -/
theorem exists_lookup_name (inSet : member.set = set) :
    ∃ first, set.lookup member.name = some first ∧ first.index ≤ member.index := by
  have listed := getElem?_index inSet
  cases found : set.lookup member.name with
  | none =>
      have unlisted := lookup_eq_none_iff_forall_mem.1 found _ (List.mem_of_getElem? listed)
      exact absurd rfl unlisted
  | some first =>
      refine ⟨first, rfl, Nat.not_lt.1 fun before => ?_⟩
      exact (lookup_eq_some_iff.1 found).2.least _ before _ listed rfl

/-! ### The whole of it -/

/-- How members are found in a set: by name, with the first position at which a member has the
name but for case, and by position. -/
structure FindsMembers (set : EnumSet) : Prop where
  found : ∀ name member, set.lookup name = some member ↔
    member.set = set ∧ set.IsFirst name member.index
  missing : ∀ name, set.lookup name = none ↔
    ∀ other ∈ set.members, Text.upper other.toList ≠ Text.upper name.toList
  inside : ∀ sought index, set.table.get? sought = some index → index < set.members.length
  placed : ∀ index member, set.member? index = some member ↔
    member.set = set ∧ member.index = index
  beyond : ∀ index, set.member? index = none ↔ set.members.length ≤ index
  named : ∀ member : EnumMember, member.set = set →
    set.members[member.index]? = some member.name
  again : ∀ name member, set.lookup name = some member →
    set.lookup member.name = some member
  firstOfName : ∀ index member, set.member? index = some member →
    ∃ first, set.lookup member.name = some first ∧ first.index ≤ index
  alike : ∀ other : EnumSet, other.name = set.name → other.members = set.members →
    other.table = set.table ∧ other.lookup = set.lookup ∧ other.member? = set.member?

/-- In every set, also in one with members that repeat or differ only in case, a name is found
exactly at the first position at which a member has it. -/
theorem findsMembers (set : EnumSet) : set.FindsMembers where
  found _ _ := lookup_eq_some_iff
  missing _ := lookup_eq_none_iff_forall_mem
  inside _ _ := lt_length_of_get?_table
  placed _ _ := member?_eq_some_iff
  beyond _ := member?_eq_none_iff
  named _ := getElem?_index
  again _ _ := lookup_name_of_lookup
  firstOfName index member placed := by
    obtain ⟨inSet, rfl⟩ := member?_eq_some_iff.1 placed
    exact exists_lookup_name inSet
  alike other sameName sameMembers := by
    have equal : other = set := by
      cases other
      cases set
      cases sameName
      cases sameMembers
      rfl
    subst equal
    exact ⟨rfl, rfl, rfl⟩

/-- Two spellings of one name and a third that is longer in upper case: the first counts. -/
example : (lookup ⟨"S", ["straße", "STRASSE", "x"]⟩ "Strasse").map EnumMember.index = some 0 := by
  decide

end Settings.EnumSet
