import Settings.Proofs.CanonicalText
import Settings.Proofs.Tags
import Settings.Tree.Flatten

/-!
Trees of settings as stores.

What a store of a tree holds is said on the tree itself: `Tree.Reaches` follows the names of
nested mappings to a node, and `Tree.StoredAs` gives the text of a node by its kind.  A tree and
its store hold the same settings (`Tree.FlattensTo`) as long as no name on the way to a node is
empty or holds a dot, because only then the dotted keys tell the paths apart.
-/

namespace Settings

namespace Tree

/-! ### Nodes -/

/-- Induction over trees, with a hypothesis for each item of a list and for each member of a
mapping. -/
@[elab_as_elim]
theorem nodeInduction {motive : Tree → Prop} (null : motive .null)
    (bool : ∀ value, motive (.bool value)) (integer : ∀ value, motive (.integer value))
    (real : ∀ value, motive (.real value)) (text : ∀ value, motive (.text value))
    (list : ∀ items, (∀ item ∈ items, motive item) → motive (.list items))
    (mapping : ∀ members, (∀ member ∈ members, motive member.2) → motive (.mapping members)) :
    ∀ tree, motive tree
  | .null => null
  | .bool value => bool value
  | .integer value => integer value
  | .real value => real value
  | .text value => text value
  | .list items => list items fun item listed =>
      have smaller : sizeOf item < sizeOf (Tree.list items) :=
        Nat.lt_of_lt_of_le (List.sizeOf_lt_of_mem listed) (by simp)
      nodeInduction null bool integer real text list mapping item
  | .mapping members => mapping members fun member listed =>
      have smaller : sizeOf member.2 < sizeOf (Tree.mapping members) := by
        have inside := List.sizeOf_lt_of_mem listed
        obtain ⟨name, child⟩ := member
        simp only [Tree.mapping.sizeOf_spec, Prod.mk.sizeOf_spec] at inside ⊢
        omega
      nodeInduction null bool integer real text list mapping member.2
termination_by tree => sizeOf tree
decreasing_by
  · exact smaller
  · exact smaller

/-- A node without data: null, or a number that is not finite, which is null in a document. -/
def isNull : Tree → Bool
  | .null => true
  | .real (.finite ..) => false
  | .real _ => true
  | _ => false

/-- The node is a mapping. -/
def isMapping : Tree → Bool
  | .mapping _ => true
  | _ => false

/-- The tree can stand for a document: integers are words, and the members of a mapping are in
the order of their names, no two of which are the same. -/
inductive WellFormed : Tree → Prop where
  | null : WellFormed .null
  | bool (value : Bool) : WellFormed (.bool value)
  | integer {value : Int} (word : isWord value = true) : WellFormed (.integer value)
  | real (value : Binary .double) : WellFormed (.real value)
  | text (value : String) : WellFormed (.text value)
  | list {items : List Tree} (each : ∀ item ∈ items, WellFormed item) :
      WellFormed (.list items)
  | mapping {members : List (String × Tree)} (ordered : Entries.Sorted members)
      (each : ∀ member ∈ members, WellFormed member.2) :
      WellFormed (.mapping members)

/-- The text that a node is stored as: a text is stored as it is, a truth value by its name, an
integer in decimal digits, another number as it stands in a document, and a list as the canonical
list of its items without those that are null.  A mapping in a list is the canonical map of its
members without those that are null. -/
inductive StoredAs : Tree → String → Prop where
  | bool (value : Bool) : StoredAs (.bool value) (if value then "true" else "false")
  | integer (value : Int) : StoredAs (.integer value) (String.ofList (Text.ofInt value))
  | real {value : Binary .double} {text : String} (number : Json.ofReal? value = some text) :
      StoredAs (.real value) text
  | text (value : String) : StoredAs (.text value) value
  | list {items : List Tree} {texts : List String}
      (each : List.Forall₂ StoredAs (items.filter (!·.isNull)) texts) :
      StoredAs (.list items) (joinElements texts)
  | mapping {members : List (String × Tree)} {texts : List String}
      (each : List.Forall₂ StoredAs ((members.filter (!·.2.isNull)).map Prod.snd) texts) :
      StoredAs (.mapping members)
        (joinElements ((((members.filter (!·.2.isNull)).map Prod.fst).zip texts).map renderEntry))

/-- The names lead from the tree, through mappings only, to the node. -/
inductive Reaches : Tree → List String → Tree → Prop where
  | here (node : Tree) : Reaches node [] node
  | member {members : List (String × Tree)} {name : String} {child node : Tree}
      {path : List String} (listed : (name, child) ∈ members) (inside : Reaches child path node) :
      Reaches (.mapping members) (name :: path) node

/-- The node is a setting: it is reached through mappings only, and it has data that is not
spread over a mapping. -/
structure Holds (tree : Tree) (path : List String) (node : Tree) : Prop where
  reached : Reaches tree path node
  noMapping : node.isMapping = false
  notNull : node.isNull = false

/-! ### Values and texts of nodes -/

theorem isNull_iff {node : Tree} : node.isNull = true ↔ node.toValue? = none := by
  cases node with
  | null => exact iff_of_true rfl rfl
  | real value => cases value <;> simp [isNull, toValue?, Json.ofReal?]
  | _ => simp [isNull, toValue?]

theorem exists_toValue? {node : Tree} (notNull : node.isNull = false) :
    ∃ value, node.toValue? = some value := by
  rw [← Option.isSome_iff_exists, Option.isSome_iff_ne_none, Ne, ← isNull_iff, notNull]
  exact Bool.false_ne_true

/-- Items that stand for values make up a list that stands for the list of these. -/
theorem toValue?_list {α : Type} {item : α → Tree} {value : α → Value}
    (each : ∀ datum, (item datum).toValue? = some (value datum)) (data : List α) :
    (Tree.list (data.map item)).toValue? = some (.list (data.map value)) := by
  rw [toValue?]
  congr 2
  induction data with
  | nil => rfl
  | cons datum rest ih => rw [List.map_cons, itemValues, each, List.map_cons, ih]

/-- The texts of the items of a list are those of the items that are not null. -/
theorem forall₂_storedAs_iff {items : List Tree} {texts : List String}
    (each : ∀ item ∈ items, ∀ text,
      StoredAs item text ↔ item.toValue?.map Value.render = some text) :
    List.Forall₂ StoredAs (items.filter (!·.isNull)) texts ↔
      texts = (itemValues items).map Value.render := by
  induction items generalizing texts with
  | nil => simp [itemValues]
  | cons item rest ih =>
      have others := fun {texts} =>
        @ih texts fun later listed => each later (List.mem_cons_of_mem _ listed)
      cases null : item.isNull with
      | true =>
          rw [List.filter_cons_of_neg (by simp [null]), others, itemValues,
            isNull_iff.1 null]
      | false =>
          obtain ⟨value, stands⟩ := exists_toValue? null
          have first := each item (List.mem_cons_self ..)
          rw [stands] at first
          rw [List.filter_cons_of_pos (by simp [null]), List.forall₂_cons_left_iff, itemValues,
            stands]
          simp only [first, others, Option.map_some, Option.some.injEq]
          constructor
          · rintro ⟨text, rest, rfl, rfl, rfl⟩
            rfl
          · rintro rfl
            exact ⟨_, _, rfl, rfl, rfl⟩

/-- The texts of the members of a mapping are those of the members that are not null, with their
names. -/
theorem memberTexts_eq (members : List (String × Tree)) :
    memberTexts members = ((members.filter (!·.2.isNull)).map Prod.fst).zip
      ((itemValues (members.map Prod.snd)).map Value.render) := by
  induction members with
  | nil => rfl
  | cons member rest ih =>
      obtain ⟨name, child⟩ := member
      rw [memberTexts, List.map_cons, itemValues]
      cases null : child.isNull with
      | true =>
          rw [List.filter_cons_of_neg (by simp [null]), isNull_iff.1 null]
          exact ih
      | false =>
          obtain ⟨value, stands⟩ := exists_toValue? null
          rw [List.filter_cons_of_pos (by simp [null]), stands, ih]
          rfl

theorem sublist_memberTexts (members : List (String × Tree)) :
    ((memberTexts members).map Prod.fst).Sublist (members.map Prod.fst) := by
  induction members with
  | nil => exact List.Sublist.slnil
  | cons member rest ih =>
      obtain ⟨name, child⟩ := member
      rw [memberTexts]
      split
      · exact ih.cons_cons name
      · exact ih.cons name

/-- The entries of a mapping keep the order of its members. -/
theorem sorted_memberTexts {members : List (String × Tree)} (ordered : Entries.Sorted members) :
    Entries.Sorted (memberTexts members) := by
  have names : (members.map Prod.fst).Pairwise (· < ·) := List.pairwise_map.2 ordered
  exact List.pairwise_map.1 (names.sublist (sublist_memberTexts members))

theorem integerValue_render {value : Int} (word : isWord value = true) :
    (integerValue value).render = String.ofList (Text.ofInt value) := by
  simp only [isWord, Bool.and_eq_true, decide_eq_true_eq] at word
  unfold integerValue
  split
  · next small =>
      have same : (Int64.ofInt value).toInt = value := by
        apply Int64.toInt_ofInt_of_le
        · simpa [signedLimit] using word.1
        · simpa [signedLimit] using small
      rw [Value.render, Value.display, same] <;> rintro _ ⟨⟩
  · rw [Value.render]

theorem render_list (values : List Value) :
    (Value.list values).render = joinElements (values.map Value.render) := by
  rw [Value.render, Value.renderAll_eq_map]

/-- A node is stored as the canonical text of its value. -/
theorem storedAs_iff {node : Tree} (wellFormed : node.WellFormed) {text : String} :
    StoredAs node text ↔ node.toValue?.map Value.render = some text := by
  induction node using nodeInduction generalizing text with
  | null => exact iff_of_false (by rintro ⟨⟩) (by rintro ⟨⟩)
  | bool value =>
      rw [toValue?, Option.map_some, Option.some.injEq]
      constructor
      · rintro ⟨⟩
        rfl
      · rintro rfl
        exact .bool value
  | integer value =>
      cases wellFormed with
      | integer word =>
          rw [toValue?, Option.map_some, Option.some.injEq, integerValue_render word]
          constructor
          · rintro ⟨⟩
            rfl
          · rintro rfl
            exact .integer value
  | real value =>
      rw [toValue?, Option.map_map]
      have same : (Value.render ∘ Value.text) = id := by
        funext text
        rw [Function.comp_apply, Value.render, id_eq]
      rw [same, Option.map_id_fun]
      constructor
      · rintro ⟨⟩
        assumption
      · exact .real
  | text value =>
      rw [toValue?, Option.map_some, Option.some.injEq]
      constructor
      · rintro ⟨⟩
        rfl
      · rintro rfl
        exact .text value
  | list items ih =>
      cases wellFormed with
      | list each =>
          have texts := fun {texts} => @forall₂_storedAs_iff items texts
            fun item listed text => ih item listed (each item listed)
          rw [toValue?, Option.map_some, Option.some.injEq, render_list]
          constructor
          · rintro ⟨⟩
            next stored => rw [texts.1 stored]
          · rintro rfl
            exact .list (texts.2 rfl)
  | mapping members ih =>
      cases wellFormed with
      | mapping ordered each =>
          have kept : (members.filter (!·.2.isNull)).map Prod.snd =
              (members.map Prod.snd).filter (!·.isNull) := by
            rw [List.filter_map]
            rfl
          have texts := fun {texts} => @forall₂_storedAs_iff (members.map Prod.snd) texts
            (by
              intro child listed text
              obtain ⟨member, inside, rfl⟩ := List.mem_map.1 listed
              exact ih member inside (each member inside))
          rw [toValue?, Option.map_some, Option.some.injEq, Value.render, renderMap,
            Table.entries_ofList (sorted_memberTexts ordered), memberTexts_eq]
          constructor
          · rintro ⟨⟩
            next stored =>
              rw [kept] at stored
              rw [texts.1 stored]
          · rintro rfl
            refine .mapping ?_
            rw [kept]
            exact texts.2 rfl

/-! ### Paths and keys -/

/-- The key of a path: its names with dots between them. -/
def dotted (path : List String) : String := ".".intercalate path

/-- A name that can be told apart from others in a dotted key. -/
def IsPlain (name : String) : Prop := name ≠ "" ∧ '.' ∉ name.toList

instance (name : String) : Decidable (IsPlain name) :=
  inferInstanceAs (Decidable (_ ∧ _))

/-- A name that is not empty is seen in the key. -/
theorem dotted_cons_ne_empty {name : String} (nonempty : name ≠ "") (path : List String) :
    dotted (name :: path) ≠ "" := by
  intro empty
  cases path with
  | nil => exact nonempty (by simpa [dotted] using empty)
  | cons next path => simp [dotted] at empty

/-- The names of a path are the pieces of its key between dots. -/
theorem pieces_dotted {path : List String} (inhabited : path ≠ [])
    (plain : ∀ name ∈ path, IsPlain name) :
    Literal.pieces '.' (dotted path).toList = path.map String.toList := by
  rw [dotted, String.toList_intercalate]
  apply Literal.pieces_intercalate
  · simpa using inhabited
  · intro text listed
    obtain ⟨name, member, rfl⟩ := List.mem_map.1 listed
    exact (plain name member).2

/-- Paths of plain names are told apart by their keys. -/
theorem dotted_injective {path path' : List String} (plain : ∀ name ∈ path, IsPlain name)
    (plain' : ∀ name ∈ path', IsPlain name) (same : dotted path = dotted path') :
    path = path' := by
  cases path with
  | nil =>
      cases path' with
      | nil => rfl
      | cons name others =>
          have nonempty := (plain' name (List.mem_cons_self ..)).1
          exact absurd same.symm (dotted_cons_ne_empty nonempty others)
  | cons name others =>
      cases path' with
      | nil =>
          have nonempty := (plain name (List.mem_cons_self ..)).1
          exact absurd same (dotted_cons_ne_empty nonempty others)
      | cons name' others' =>
          have pieces := pieces_dotted (List.cons_ne_nil name others) plain
          rw [same, pieces_dotted (List.cons_ne_nil name' others') plain'] at pieces
          exact ((List.map_inj_right fun _ _ => String.toList_inj.1).1 pieces).symm

/-- The names of a path behind a key that is not empty are joined to it one by one. -/
theorem foldl_childKey {key : String} (nonempty : key ≠ "") (path : List String) :
    path.foldl childKey key = dotted (key :: path) := by
  induction path generalizing key with
  | nil => simp [dotted]
  | cons name path ih =>
      have joined : childKey key name = key ++ "." ++ name := by
        rw [childKey, if_neg (by simpa using nonempty)]
      have longer : key ++ "." ++ name ≠ "" := by simp
      rw [List.foldl_cons, joined, ih longer, dotted, dotted, String.intercalate_cons_append,
        String.intercalate_cons_cons]

/-- The root has the empty key, which is not a part of the keys below it. -/
theorem foldl_childKey_empty {path : List String} (plain : ∀ name ∈ path, IsPlain name) :
    path.foldl childKey "" = dotted path := by
  cases path with
  | nil => rfl
  | cons name path => exact foldl_childKey (plain name (List.mem_cons_self ..)).1 path

/-- Names lead to one node at most. -/
theorem Reaches.unique {tree node other : Tree} {path : List String} (wellFormed : tree.WellFormed)
    (reaches : Reaches tree path node) (reaches' : Reaches tree path other) : node = other := by
  induction reaches with
  | here node =>
      cases reaches'
      rfl
  | @member members name child node path listed inside ih =>
      cases wellFormed with
      | mapping ordered each =>
          cases reaches' with
          | @member _ _ child' _ _ listed' inside' =>
              have first := ordered.find?_eq_some_iff.2 listed
              rw [ordered.find?_eq_some_iff.2 listed'] at first
              cases first
              exact ih (each _ listed) inside'

/-! ### The settings of a tree -/

theorem settings_of_not_isMapping {tree : Tree} (noMapping : tree.isMapping = false)
    (key : String) :
    settings key tree = (tree.toValue?.map fun value => (key, value.render)).toList := by
  cases tree with
  | mapping members => cases noMapping
  | _ => rfl

theorem memberSettings_eq_flatMap (key : String) (members : List (String × Tree)) :
    memberSettings key members =
      members.flatMap fun member => settings (childKey key member.1) member.2 := by
  induction members with
  | nil => rfl
  | cons member rest ih => rw [memberSettings, List.flatMap_cons, ih]

theorem Reaches.eq_of_not_isMapping {tree node : Tree} {path : List String}
    (reaches : Reaches tree path node) (noMapping : tree.isMapping = false) :
    path = [] ∧ node = tree := by
  cases reaches with
  | here => exact ⟨rfl, rfl⟩
  | member listed inside => cases noMapping

theorem holds_iff_of_not_isMapping {tree node : Tree} {path : List String}
    (noMapping : tree.isMapping = false) :
    Holds tree path node ↔ path = [] ∧ node = tree ∧ tree.isNull = false := by
  constructor
  · rintro ⟨reaches, -, notNull⟩
    obtain ⟨rfl, rfl⟩ := reaches.eq_of_not_isMapping noMapping
    exact ⟨rfl, rfl, notNull⟩
  · rintro ⟨rfl, rfl, notNull⟩
    exact ⟨.here _, noMapping, notNull⟩

theorem holds_mapping_iff {members : List (String × Tree)} {node : Tree} {path : List String} :
    Holds (.mapping members) path node ↔
      ∃ name child below, path = name :: below ∧ (name, child) ∈ members ∧
        Holds child below node := by
  constructor
  · rintro ⟨reaches, noMapping, notNull⟩
    cases reaches with
    | here => cases noMapping
    | member listed inside => exact ⟨_, _, _, rfl, listed, inside, noMapping, notNull⟩
  · rintro ⟨name, child, below, rfl, listed, inside, noMapping, notNull⟩
    exact ⟨.member listed inside, noMapping, notNull⟩

/-- The text is that of a node which the tree holds under the key, seen from a key above. -/
def Settles (tree : Tree) (key place text : String) : Prop :=
  ∃ path node, Holds tree path node ∧ path.foldl childKey key = place ∧
    node.toValue?.map Value.render = some text

theorem settles_mapping_iff {members : List (String × Tree)} {key place text : String} :
    Settles (.mapping members) key place text ↔
      ∃ member ∈ members, Settles member.2 (childKey key member.1) place text := by
  constructor
  · rintro ⟨path, node, holds, keyed, stored⟩
    obtain ⟨name, child, below, rfl, listed, inside⟩ := holds_mapping_iff.1 holds
    exact ⟨(name, child), listed, below, node, inside, keyed, stored⟩
  · rintro ⟨⟨name, child⟩, listed, path, node, holds, keyed, stored⟩
    exact ⟨name :: path, node, holds_mapping_iff.2 ⟨name, child, path, rfl, listed, holds⟩,
      keyed, stored⟩

theorem mem_settings_of_not_isMapping {tree : Tree} (noMapping : tree.isMapping = false)
    {key place text : String} :
    (place, text) ∈ settings key tree ↔ Settles tree key place text := by
  rw [settings_of_not_isMapping noMapping, Option.mem_toList, Option.map_eq_some_iff]
  constructor
  · rintro ⟨value, stands, same⟩
    cases same
    have notNull : tree.isNull = false := by
      rw [← Bool.not_eq_true, isNull_iff, stands]
      rintro ⟨⟩
    refine ⟨[], tree, ⟨.here tree, noMapping, notNull⟩, rfl, ?_⟩
    rw [stands]
    rfl
  · rintro ⟨path, node, holds, rfl, stored⟩
    obtain ⟨rfl, rfl, -⟩ := (holds_iff_of_not_isMapping noMapping).1 holds
    obtain ⟨value, stands, rfl⟩ := Option.map_eq_some_iff.1 stored
    exact ⟨value, stands, rfl⟩

/-- The settings of a tree are the nodes that it holds, each under the key of its path. -/
theorem mem_settings_iff {tree : Tree} {key place text : String} :
    (place, text) ∈ settings key tree ↔ Settles tree key place text := by
  induction tree using nodeInduction generalizing key with
  | mapping members ih =>
      rw [settings, memberSettings_eq_flatMap, List.mem_flatMap, settles_mapping_iff]
      constructor
      · rintro ⟨member, listed, inside⟩
        exact ⟨member, listed, (ih member listed).1 inside⟩
      · rintro ⟨member, listed, settles⟩
        exact ⟨member, listed, (ih member listed).2 settles⟩
  | _ => exact mem_settings_of_not_isMapping rfl

/-! ### The store of a tree -/

theorem allStorableItems_eq_all (items : List Tree) :
    allStorableItems items = items.all allStorable := by
  induction items with
  | nil => rfl
  | cons item rest ih => rw [allStorableItems, List.all_cons, ih]

theorem allStorableMembers_eq_all (members : List (String × Tree)) :
    allStorableMembers members = members.all fun member => member.2.allStorable := by
  induction members with
  | nil => rfl
  | cons member rest ih => rw [allStorableMembers, List.all_cons, ih]

/-- Every integer of a document can be stored. -/
theorem WellFormed.allStorable {tree : Tree} (wellFormed : tree.WellFormed) :
    tree.allStorable = true := by
  induction wellFormed with
  | integer word => exact word
  | list each ih =>
      rw [Tree.allStorable, allStorableItems_eq_all, List.all_eq_true]
      exact ih
  | mapping ordered each ih =>
      rw [Tree.allStorable, allStorableMembers_eq_all, List.all_eq_true]
      exact ih
  | _ => rfl

theorem WellFormed.of_reaches {tree node : Tree} {path : List String} (wellFormed : tree.WellFormed)
    (reaches : Reaches tree path node) : node.WellFormed := by
  induction reaches with
  | here => exact wellFormed
  | member listed inside ih =>
      cases wellFormed with
      | mapping ordered each => exact ih (each _ listed)

/-- No name on the way to a node of the tree is empty or holds a dot. -/
def PlainNames (tree : Tree) : Prop :=
  ∀ path node, Reaches tree path node → ∀ name ∈ path, IsPlain name

theorem plainNames_of_not_isMapping {tree : Tree} (noMapping : tree.isMapping = false) :
    tree.PlainNames := by
  intro path node reaches name member
  rw [(reaches.eq_of_not_isMapping noMapping).1] at member
  cases member

theorem plainNames_mapping {members : List (String × Tree)}
    (each : ∀ member ∈ members, IsPlain member.1 ∧ member.2.PlainNames) :
    (mapping members).PlainNames := by
  intro path node reaches name member
  cases reaches with
  | here => cases member
  | member listed inside =>
      rcases List.mem_cons.1 member with rfl | later
      · exact (each _ listed).1
      · exact (each _ listed).2 _ node inside name later

section

variable {tree : Tree} {key text : String}

/-- Seen from the root, a node is under the key of its path. -/
theorem settles_empty_iff (wellFormed : tree.WellFormed) (plain : tree.PlainNames) :
    Settles tree "" key text ↔
      ∃ path node, Holds tree path node ∧ dotted path = key ∧ node.StoredAs text := by
  constructor
  · rintro ⟨path, node, holds, keyed, stored⟩
    rw [foldl_childKey_empty (plain path node holds.reached)] at keyed
    exact ⟨path, node, holds, keyed, (storedAs_iff (wellFormed.of_reaches holds.reached)).2 stored⟩
  · rintro ⟨path, node, holds, keyed, stored⟩
    rw [← foldl_childKey_empty (plain path node holds.reached)] at keyed
    exact ⟨path, node, holds, keyed, (storedAs_iff (wellFormed.of_reaches holds.reached)).1 stored⟩

/-- Nodes with the same key are the same. -/
theorem Holds.unique (wellFormed : tree.WellFormed) (plain : tree.PlainNames)
    {path path' : List String} {node node' : Tree} (holds : Holds tree path node)
    (holds' : Holds tree path' node') (same : dotted path = dotted path') :
    path = path' ∧ node = node' := by
  have paths := dotted_injective (plain path node holds.reached)
    (plain path' node' holds'.reached) same
  refine ⟨paths, holds.reached.unique wellFormed ?_⟩
  rw [paths]
  exact holds'.reached

/-- The store of a tree holds the nodes that the tree holds. -/
theorem raw?_flatten_iff (wellFormed : tree.WellFormed) (plain : tree.PlainNames) :
    tree.flatten.raw? key = some text ↔
      ∃ path node, Holds tree path node ∧ dotted path = key ∧ node.StoredAs text := by
  rw [← settles_empty_iff wellFormed plain, ← mem_settings_iff, Store.raw?, flatten]
  apply Table.get?_ofList_of_unique
  intro place first second listed listed'
  rw [mem_settings_iff, settles_empty_iff wellFormed plain] at listed listed'
  obtain ⟨path, node, holds, keyed, stored⟩ := listed
  obtain ⟨path', node', holds', keyed', stored'⟩ := listed'
  obtain ⟨-, rfl⟩ := holds.unique wellFormed plain holds' (keyed.trans keyed'.symm)
  rw [storedAs_iff (wellFormed.of_reaches holds.reached)] at stored stored'
  exact Option.some.inj (stored.symm.trans stored')

/-- A node that stands for a value is read as the value under a type under which the text of the
value is. -/
theorem getValue_flatten (wellFormed : tree.WellFormed) (plain : tree.PlainNames)
    {path : List String} {node : Tree} (reaches : Reaches tree path node)
    (noMapping : node.isMapping = false) {value : Value} (stands : node.toValue? = some value)
    {tag : Tag} (reads : coerce tag (.text value.render) = .ok value) :
    tree.flatten.getValue (dotted path) tag = .ok (some value) := by
  have notNull : node.isNull = false := by
    rw [← Bool.not_eq_true, isNull_iff, stands]
    rintro ⟨⟩
  have stored : node.StoredAs value.render := by
    rw [storedAs_iff (wellFormed.of_reaches reaches), stands]
    rfl
  have present : tree.flatten.raw? (dotted path) = some value.render :=
    (raw?_flatten_iff wellFormed plain).2
      ⟨path, node, ⟨reaches, noMapping, notNull⟩, rfl, stored⟩
  rw [Store.getValue, present]
  dsimp only
  rw [reads]
  rfl

end

/-- The mapping that holds the entries of a table as texts. -/
def ofTexts (table : Table String) : Tree :=
  .mapping (table.entries.map fun entry => (entry.1, .text entry.2))

theorem toValue?_ofTexts (table : Table String) : (ofTexts table).toValue? = some (.map table) := by
  have members : ∀ entries : List (String × String),
      memberTexts (entries.map fun entry => (entry.1, .text entry.2)) = entries := by
    intro entries
    induction entries with
    | nil => rfl
    | cons entry rest ih =>
        rw [List.map_cons, memberTexts, toValue?, ih]
        dsimp only
        rw [Value.render]
  rw [ofTexts, toValue?, members, Table.ofList_entries]

/-- The members of the root are settings under their own names, whatever these are. -/
theorem settings_ofTexts (table : Table String) : settings "" (ofTexts table) = table.entries := by
  have members : ∀ entries : List (String × String),
      memberSettings "" (entries.map fun entry => (entry.1, .text entry.2)) = entries := by
    intro entries
    induction entries with
    | nil => rfl
    | cons entry rest ih =>
        rw [List.map_cons, memberSettings, ih, settings_of_not_isMapping rfl, toValue?,
          Option.map_some, Value.render]
        rfl
  rw [ofTexts, settings, members]

theorem wellFormed_ofTexts (table : Table String) : (ofTexts table).WellFormed := by
  refine .mapping (List.pairwise_map.2 table.sorted) ?_
  intro member listed
  obtain ⟨entry, -, rfl⟩ := List.mem_map.1 listed
  exact .text entry.2

/-- The tree and the store hold the same settings: each node of the tree has one entry of its
own, whose text is that of the node, and there are no other entries.  Lists of texts and lists of
mappings of texts are read from the store as they are in the tree. -/
structure FlattensTo (tree : Tree) (store : Store) : Prop where
  stored : ∀ path node, Holds tree path node →
    ∃ text, store.raw? (dotted path) = some text ∧ ∀ other, node.StoredAs other ↔ other = text
  separate : ∀ path node path' node', Holds tree path node → Holds tree path' node' →
    dotted path = dotted path' → path = path' ∧ node = node'
  nothingElse : ∀ key text, store.raw? key = some text →
    ∃ path node, Holds tree path node ∧ dotted path = key
  texts : ∀ path (strings : List String), Reaches tree path (.list (strings.map .text)) →
    store.getValue (dotted path) (.list .text) = .ok (some (.list (strings.map .text)))
  maps : ∀ path (tables : List (Table String)), Reaches tree path (.list (tables.map ofTexts)) →
    store.getValue (dotted path) (.list .map) = .ok (some (.list (tables.map .map)))

theorem flattensTo_flatten {tree : Tree} (wellFormed : tree.WellFormed) (plain : tree.PlainNames) :
    tree.FlattensTo tree.flatten where
  stored path node holds := by
    obtain ⟨value, stands⟩ := exists_toValue? holds.notNull
    have stored := fun {text} => @storedAs_iff node (wellFormed.of_reaches holds.reached) text
    rw [stands] at stored
    refine ⟨value.render, ?_, fun other => ?_⟩
    · exact (raw?_flatten_iff wellFormed plain).2 ⟨path, node, holds, rfl, stored.2 rfl⟩
    · rw [stored, Option.map_some, Option.some.injEq]
      exact eq_comm
  separate _ _ _ _ holds holds' same := holds.unique wellFormed plain holds' same
  nothingElse key text found := by
    obtain ⟨path, node, holds, keyed, -⟩ := (raw?_flatten_iff wellFormed plain).1 found
    exact ⟨path, node, holds, keyed⟩
  texts path strings reaches := by
    apply getValue_flatten wellFormed plain reaches rfl (toValue?_list (fun _ => rfl) strings)
    apply Value.coerce_render_list rfl
    intro value listed
    obtain ⟨text, -, rfl⟩ := List.mem_map.1 listed
    exact Value.coerce_render_scalar (.text text) rfl trivial (by simp) (by simp)
  maps path tables reaches := by
    apply getValue_flatten wellFormed plain reaches rfl (toValue?_list toValue?_ofTexts tables)
    apply Value.coerce_render_list rfl
    intro value listed
    obtain ⟨table, -, rfl⟩ := List.mem_map.1 listed
    exact Value.coerce_render_scalar (.map table) rfl trivial (by simp) (by simp)

/-- A document whose root is a mapping and whose names are plain has a store with the same
settings.  A mapping of texts has itself as its store, whatever its names are. -/
theorem toStore?_exact :
    (∀ members, (mapping members).WellFormed → (mapping members).PlainNames →
      ∃ store, (mapping members).toStore? = some store ∧ (mapping members).FlattensTo store) ∧
    ∀ table, (ofTexts table).toStore? = some ⟨table⟩ := by
  constructor
  · intro members wellFormed plain
    refine ⟨_, ?_, flattensTo_flatten wellFormed plain⟩
    rw [toStore?, if_pos wellFormed.allStorable]
  · intro table
    rw [toStore?, if_pos (wellFormed_ofTexts table).allStorable, flatten, settings_ofTexts,
      Table.ofList_entries]

/-- Two levels of mappings, a list with a null and a mapping in it, and a null among the members
of the second level. -/
def nestedSample : Tree :=
  mapping [
    ("labels", .list [.text "a,b", .null, .mapping [("zone", .bool true)]]),
    ("log", .mapping [("level", .text "info"), ("unset", .null)])]

theorem toStore?_exact_nested :
    nestedSample.WellFormed ∧ nestedSample.PlainNames ∧
      ∃ store, nestedSample.toStore? = some store ∧ nestedSample.FlattensTo store := by
  have wellFormed : nestedSample.WellFormed := by
    refine .mapping (by decide) ?_
    simp only [List.forall_mem_cons]
    refine ⟨.list ?_, .mapping (by decide) ?_, by simp⟩
    · simp only [List.forall_mem_cons]
      refine ⟨.text _, .null, .mapping (by decide) ?_, by simp⟩
      simp only [List.forall_mem_cons]
      exact ⟨.bool _, by simp⟩
    · simp only [List.forall_mem_cons]
      exact ⟨.text _, .null, by simp⟩
  have plain : nestedSample.PlainNames := by
    refine plainNames_mapping ?_
    simp only [List.forall_mem_cons]
    refine ⟨⟨by decide, plainNames_of_not_isMapping rfl⟩,
      ⟨by decide, plainNames_mapping ?_⟩, by simp⟩
    simp only [List.forall_mem_cons]
    exact ⟨⟨by decide, plainNames_of_not_isMapping rfl⟩,
      ⟨by decide, plainNames_of_not_isMapping rfl⟩, by simp⟩
  exact ⟨wellFormed, plain, toStore?_exact.1 _ wellFormed plain⟩

end Tree

end Settings
