import Settings.Literal.Tag
import Settings.Proofs.Trimming
import Settings.Proofs.Traversals

/-!
Type tags as they are read, and their names.

A list tag is read by reading what is between its brackets (`readTag_of_list`).  A tag that was
read can be named (`Tag.Nameable`): the members of an enumeration are not empty, have no white
space at their ends and hold no bar.  Whatever else they hold, brackets of either kind included,
the tag is read again from its name, because only the outermost brackets are looked at.
-/

namespace Settings

/-- No name of a member in the type has white space at an end. -/
def Tag.NamesTrimmed : Tag → Prop
  | .member set => ∀ name ∈ set.members, Text.trim name.toList = name.toList
  | .list element => element.NamesTrimmed
  | _ => True

/-- The set can be listed between brackets so that its members are read from the list. -/
structure EnumSet.Listable (set : EnumSet) : Prop where
  unnamed : set.name = "enum"
  inhabited : set.members ≠ []
  solid : ∀ name ∈ set.members, name ≠ ""
  trimmed : ∀ name ∈ set.members, Text.trim name.toList = name.toList
  undivided : ∀ name ∈ set.members, '|' ∉ name.toList

/-- Every set in the type can be listed between brackets. -/
def Tag.Nameable : Tag → Prop
  | .member set => set.Listable
  | .list element => element.Nameable
  | _ => True

theorem Tag.Nameable.namesTrimmed {tag : Tag} (nameable : tag.Nameable) : tag.NamesTrimmed := by
  induction tag with
  | member set => exact nameable.trimmed
  | list element ih => exact ih nameable
  | _ => trivial

namespace Literal

/-! ### What is read -/

/-- A list tag is read by reading the tag of the elements. -/
theorem readTag_of_list {text inner : List Char}
    (strips : stripWrapper? "list<".toList '>' (Text.trim text) = some inner) :
    readTag text = (readTag inner).map .list := by
  rw [readTag]
  split
  · next found same =>
      rw [strips] at same
      cases same
      rfl
  · next same =>
      rw [strips] at same
      cases same

/-- An enumeration is read as the set of the members between its brackets. -/
theorem readTag_of_enum {text inner : List Char}
    (notList : stripWrapper? "list<".toList '>' (Text.trim text) = none)
    (strips : stripWrapper? "enum(".toList ')' (Text.trim text) = some inner) :
    readTag text =
      if (readMembers inner).isEmpty then .error (.unsupported (String.ofList (Text.trim text)))
      else .ok (.member ⟨"enum", readMembers inner⟩) := by
  rw [readTag]
  split
  · next same =>
      rw [notList] at same
      cases same
  · rw [strips]

/-- Any other tag is read as the word for it. -/
theorem readTag_of_word {text : List Char}
    (notList : stripWrapper? "list<".toList '>' (Text.trim text) = none)
    (notEnum : stripWrapper? "enum(".toList ')' (Text.trim text) = none) :
    readTag text =
      (simpleTag? (String.ofList (Text.lower (Text.trim text)))).elim
        (.error (.unsupported (String.ofList (Text.trim text)))) .ok := by
  rw [readTag]
  split
  · next same =>
      rw [notList] at same
      cases same
  · rw [notEnum]
    cases simpleTag? (String.ofList (Text.lower (Text.trim text))) <;> rfl

theorem eq_or_of_ite_eq_some {condition : Prop} [Decidable condition] {first tag : Tag}
    {others : Option Tag} (found : (if condition then some first else others) = some tag) :
    first = tag ∨ others = some tag := by
  split at found
  · exact .inl (Option.some.inj found)
  · exact .inr found

theorem nameable_of_simpleTag? {word : String} {tag : Tag}
    (reads : simpleTag? word = some tag) : tag.Nameable := by
  unfold simpleTag? at reads
  repeat
    rcases eq_or_of_ite_eq_some reads with rfl | reads
    · trivial
  cases reads

/-- The pieces between separators hold none. -/
theorem notMem_of_mem_pieces {separator : Char} {text piece : List Char}
    (listed : piece ∈ pieces separator text) : separator ∉ piece := by
  induction text generalizing piece with
  | nil =>
      rw [pieces, List.mem_singleton] at listed
      rw [listed]
      exact List.not_mem_nil
  | cons c rest ih =>
      rw [pieces] at listed
      split at listed
      · rcases List.mem_cons.1 listed with rfl | later
        · exact List.not_mem_nil
        · exact ih later
      next other =>
      split at listed
      · rw [List.mem_singleton.1 listed]
        simpa using Ne.symm other
      · next first others split =>
          rcases List.mem_cons.1 listed with rfl | later
          · have free := @ih first (by rw [split]; exact List.mem_cons_self ..)
            simpa [free] using Ne.symm other
          · exact ih (by rw [split]; exact List.mem_cons_of_mem _ later)

theorem listable_readMembers {text : List Char} (inhabited : readMembers text ≠ []) :
    EnumSet.Listable ⟨"enum", readMembers text⟩ where
  unnamed := rfl
  inhabited := inhabited
  solid name listed := by
    obtain ⟨piece, kept, rfl⟩ := List.mem_map.1 listed
    simpa using List.of_mem_filter kept
  trimmed name listed := by
    obtain ⟨piece, kept, rfl⟩ := List.mem_map.1 listed
    obtain ⟨raw, -, rfl⟩ := List.mem_map.1 (List.mem_of_mem_filter kept)
    rw [String.toList_ofList, Text.trim_trim]
  undivided name listed := by
    obtain ⟨piece, kept, rfl⟩ := List.mem_map.1 listed
    obtain ⟨raw, between, rfl⟩ := List.mem_map.1 (List.mem_of_mem_filter kept)
    rw [String.toList_ofList]
    exact fun bar => notMem_of_mem_pieces between (Text.mem_of_mem_trim bar)

/-- A tag that was read can be named. -/
theorem nameable_of_readTag {text : List Char} {tag : Tag} (reads : readTag text = .ok tag) :
    tag.Nameable := by
  cases isList : stripWrapper? "list<".toList '>' (Text.trim text) with
  | some inner =>
      have shorter : inner.length < text.length :=
        Nat.lt_of_lt_of_le (stripWrapper?_length_lt isList) (length_trim_le text)
      rw [readTag_of_list isList] at reads
      obtain ⟨element, inside, rfl⟩ := exists_of_map_eq_ok reads
      have elementNameable : element.Nameable := nameable_of_readTag inside
      exact elementNameable
  | none =>
      cases isEnum : stripWrapper? "enum(".toList ')' (Text.trim text) with
      | some inner =>
          rw [readTag_of_enum isList isEnum] at reads
          split at reads
          · cases reads
          · next inhabited =>
              cases reads
              exact listable_readMembers (by simpa using inhabited)
      | none =>
          rw [readTag_of_word isList isEnum] at reads
          cases simple : simpleTag? (String.ofList (Text.lower (Text.trim text))) with
          | some found =>
              rw [simple] at reads
              cases reads
              exact nameable_of_simpleTag? simple
          | none =>
              rw [simple] at reads
              cases reads
termination_by text.length

/-- The members of an enumeration are listed without white space at their ends. -/
theorem namesTrimmed_of_readTag {text : List Char} {tag : Tag} (reads : readTag text = .ok tag) :
    tag.NamesTrimmed :=
  (nameable_of_readTag reads).namesTrimmed

/-! ### What is read from names -/

theorem stripWrapper?_wrapped (opening inner : List Char) (closing : Char)
    (small : opening.map Char.toLower = opening) :
    stripWrapper? opening closing (opening ++ (inner ++ [closing])) = some inner := by
  simp [stripWrapper?, small]

theorem pieces_of_notMem {separator : Char} {text : List Char} (free : separator ∉ text) :
    pieces separator text = [text] := by
  induction text with
  | nil => rfl
  | cons c rest ih =>
      obtain ⟨other, behind⟩ := not_or.1 (mt List.mem_cons.2 free)
      rw [pieces, if_neg (Ne.symm other), ih behind]

theorem pieces_append {separator : Char} {text : List Char} (free : separator ∉ text)
    (rest : List Char) :
    pieces separator (text ++ separator :: rest) = text :: pieces separator rest := by
  induction text with
  | nil => rw [List.nil_append, pieces, if_pos rfl]
  | cons c text ih =>
      obtain ⟨other, behind⟩ := not_or.1 (mt List.mem_cons.2 free)
      rw [List.cons_append, pieces, if_neg (Ne.symm other), ih behind]

/-- Texts without the separator are the pieces of what they are joined to. -/
theorem pieces_intercalate {separator : Char} {texts : List (List Char)} (inhabited : texts ≠ [])
    (free : ∀ text ∈ texts, separator ∉ text) :
    pieces separator ([separator].intercalate texts) = texts := by
  induction texts with
  | nil => exact absurd rfl inhabited
  | cons text rest ih =>
      have first := free text (List.mem_cons_self ..)
      have others := fun other listed => free other (List.mem_cons_of_mem _ listed)
      cases rest with
      | nil => rw [List.intercalate_singleton, pieces_of_notMem first]
      | cons next rest =>
          rw [List.intercalate_cons_cons, List.append_assoc, List.singleton_append,
            pieces_append first, ih (List.cons_ne_nil next rest) others]

/-- The members of a set are read from the list of their names. -/
theorem readMembers_intercalate {set : EnumSet} (listable : set.Listable) :
    readMembers ("|".intercalate set.members).toList = set.members := by
  have names : pieces '|' ("|".intercalate set.members).toList =
      set.members.map String.toList := by
    rw [String.toList_intercalate]
    apply pieces_intercalate
    · simpa using listable.inhabited
    · intro text listed
      obtain ⟨name, member, rfl⟩ := List.mem_map.1 listed
      exact listable.undivided name member
  have trimmed : (set.members.map String.toList).map Text.trim = set.members.map String.toList := by
    rw [List.map_map]
    exact List.map_congr_left listable.trimmed
  have solid : (set.members.map String.toList).filter (!·.isEmpty) =
      set.members.map String.toList := by
    rw [List.filter_eq_self]
    intro text listed
    obtain ⟨name, member, rfl⟩ := List.mem_map.1 listed
    simpa using listable.solid name member
  rw [readMembers, names, trimmed, solid, List.map_map]
  simp

/-- A name of a type is a word, perhaps with brackets behind it. -/
theorem hasBlankEnd_name (tag : Tag) : Text.hasBlankEnd tag.name.toList = false := by
  cases tag with
  | list element =>
      rw [Tag.name, String.toList_append, String.toList_append, List.append_assoc]
      exact Text.hasBlankEnd_append (by decide) (by decide) (by decide) (by decide) _
  | member set =>
      rw [Tag.name, String.toList_append, String.toList_append, List.append_assoc]
      exact Text.hasBlankEnd_append (by decide) (by decide) (by decide) (by decide) _
  | _ => decide

/-- A word for a type is read as the type. -/
theorem readTag_of_simpleTag? {word : String} {tag : Tag}
    (notList : stripWrapper? "list<".toList '>' (Text.trim word.toList) = none)
    (notEnum : stripWrapper? "enum(".toList ')' (Text.trim word.toList) = none)
    (named : simpleTag? (String.ofList (Text.lower (Text.trim word.toList))) = some tag) :
    readTag word.toList = .ok tag := by
  rw [readTag_of_word notList notEnum, named]
  rfl

/-- A type that can be named is read from its name. -/
theorem readTag_name {tag : Tag} (nameable : tag.Nameable) : readTag tag.name.toList = .ok tag := by
  have trimmed := Text.trim_of_hasBlankEnd (hasBlankEnd_name tag)
  induction tag with
  | list element ih =>
      have name : (Tag.list element).name.toList =
          "list<".toList ++ (element.name.toList ++ ['>']) := by
        rw [Tag.name, String.toList_append, String.toList_append, List.append_assoc]
        rfl
      have isList := stripWrapper?_wrapped "list<".toList element.name.toList '>' (by decide)
      rw [← name, ← trimmed] at isList
      rw [readTag_of_list isList,
        ih nameable (Text.trim_of_hasBlankEnd (hasBlankEnd_name element))]
      rfl
  | member set =>
      have name : (Tag.member set).name.toList =
          "enum(".toList ++ (("|".intercalate set.members).toList ++ [')']) := by
        rw [Tag.name, String.toList_append, String.toList_append, List.append_assoc]
        rfl
      have isEnum := stripWrapper?_wrapped "enum(".toList ("|".intercalate set.members).toList ')'
        (by decide)
      have notList : stripWrapper? "list<".toList '>' (Tag.member set).name.toList = none := by
        rw [name]
        rfl
      rw [← name, ← trimmed] at isEnum
      rw [← trimmed] at notList
      rw [readTag_of_enum notList isEnum, readMembers_intercalate nameable, if_neg]
      · rw [← nameable.unnamed]
      · simpa using nameable.inhabited
  | _ => exact readTag_of_simpleTag? (by decide) (by decide) (by decide)

/-- A type that was read from some text, however deep its lists and whatever characters the
members of its sets are spelled with, is read from its own name: the same type, with the same
set under the same name. -/
theorem readTag_name_of_readTag {text : List Char} {tag : Tag} (reads : readTag text = .ok tag) :
    readTag tag.name.toList = .ok tag :=
  readTag_name (nameable_of_readTag reads)

/-- Lists of an enumeration whose members are spelled with brackets of both kinds, in capital
letters and with white space at all levels. -/
theorem readTag_name_of_readTag_brackets :
    readTag " LIST< list<Enum( a>b | |c)d é|)>)> >".toList =
        .ok (.list (.list (.member ⟨"enum", ["a>b", "c)d é", ")>"]⟩))) ∧
      readTag "list<list<enum(a>b|c)d é|)>)>>".toList =
        .ok (.list (.list (.member ⟨"enum", ["a>b", "c)d é", ")>"]⟩))) := by
  have reads : readTag " LIST< list<Enum( a>b | |c)d é|)>)> >".toList =
      .ok (.list (.list (.member ⟨"enum", ["a>b", "c)d é", ")>"]⟩))) := by
    have outer : stripWrapper? "list<".toList '>'
        (Text.trim " LIST< list<Enum( a>b | |c)d é|)>)> >".toList) =
          some " list<Enum( a>b | |c)d é|)>)> ".toList := by decide
    have inner : stripWrapper? "list<".toList '>'
        (Text.trim " list<Enum( a>b | |c)d é|)>)> ".toList) =
          some "Enum( a>b | |c)d é|)>)".toList := by decide
    have notList : stripWrapper? "list<".toList '>'
        (Text.trim "Enum( a>b | |c)d é|)>)".toList) = none := by decide
    have isEnum : stripWrapper? "enum(".toList ')'
        (Text.trim "Enum( a>b | |c)d é|)>)".toList) = some " a>b | |c)d é|)>".toList := by decide
    have members : readMembers " a>b | |c)d é|)>".toList = ["a>b", "c)d é", ")>"] := by decide
    rw [readTag_of_list outer, readTag_of_list inner, readTag_of_enum notList isEnum, members]
    rfl
  exact ⟨reads, readTag_name_of_readTag reads⟩

end Literal

end Settings
