import Settings.Json
import Settings.Store.Basic
import Settings.Tree
import Settings.Word

/-!
Trees of settings as stores.

A node reached through mappings only is stored under the names on its path,
joined by dots.  A list is stored as the canonical text of its items, and null
is not stored at all.
-/

namespace Settings

/-- The value of an integer; one beyond the signed range has no type but its text. -/
def Tree.integerValue (value : Int) : Value :=
  if value < (signedLimit : Int) then .long (Int64.ofInt value)
  else .text (String.ofList (Text.ofInt value))

namespace Tree

mutual

/-- Every integer in the tree is one that a store accepts. -/
def allStorable : Tree → Bool
  | .integer value => isWord value
  | .list items => allStorableItems items
  | .mapping members => allStorableMembers members
  | _ => true

/-- Every integer in the items is one that a store accepts. -/
def allStorableItems : List Tree → Bool
  | [] => true
  | item :: rest => allStorable item && allStorableItems rest

/-- Every integer in the members is one that a store accepts. -/
def allStorableMembers : List (String × Tree) → Bool
  | [] => true
  | (_, child) :: rest => allStorable child && allStorableMembers rest

end

mutual

/-- The value that a node stands for, if it stands for one.  The items of a list and the
members of a mapping that stand for none are left out. -/
def toValue? : Tree → Option Value
  | .null => none
  | .bool value => some (.bool value)
  | .integer value => some (integerValue value)
  | .real value => (Json.ofReal? value).map .text
  | .text value => some (.text value)
  | .list items => some (.list (itemValues items))
  | .mapping members => some (.map (Table.ofList (memberTexts members)))

/-- The values of the items that stand for one. -/
def itemValues : List Tree → List Value
  | [] => []
  | item :: rest =>
    match item.toValue? with
    | some value => value :: itemValues rest
    | none => itemValues rest

/-- The names and canonical texts of the members that stand for a value. -/
def memberTexts : List (String × Tree) → List (String × String)
  | [] => []
  | (name, child) :: rest =>
    match child.toValue? with
    | some value => (name, value.render) :: memberTexts rest
    | none => memberTexts rest

end

/-- The key of a member of the mapping under a key.  The root has the empty key. -/
def childKey (key name : String) : String :=
  if key.isEmpty then name else key ++ "." ++ name

mutual

/-- The keys and texts of a node under a key and of what it holds, in order. -/
def settings (key : String) : Tree → List (String × String)
  | .mapping members => memberSettings key members
  | node => (node.toValue?.map fun value => (key, value.render)).toList

/-- The keys and texts of the members of the mapping under a key. -/
def memberSettings (key : String) : List (String × Tree) → List (String × String)
  | [] => []
  | (name, child) :: rest => settings (childKey key name) child ++ memberSettings key rest

end

/-- The store of a tree.  Of two nodes with one key the later one counts. -/
def flatten (tree : Tree) : Store := ⟨Table.ofList (tree.settings "")⟩

/-- The store of a tree whose integers it accepts. -/
def toStore? (tree : Tree) : Option Store :=
  if tree.allStorable then some tree.flatten else none

end Tree

end Settings
