import Settings.Yaml.Node

/-!
Anchors resolved to numbers.

An alias repeats the node whose anchor of that name was the last one before it.
An anchor gets as its number the count of distinct names before it, so a name
that is used again shares its new number with the next new name; of the nodes
with one number, the last one in the text is the one that is repeated.
-/

namespace Settings.Yaml

/-- A node with numbers for anchors. -/
abbrev NumberedNode := Node Nat

/-- The numbers of names. -/
abbrev AnchorNumbers := List (List Char × Nat)

/-- The numbers after a name has got the next one. -/
def AnchorNumbers.next (numbers : AnchorNumbers) (name : List Char) : AnchorNumbers :=
  (name, numbers.length) :: numbers.filter (·.1 ≠ name)

namespace Node

/-- The attributes with a number for the anchor. -/
def numberAttributes (numbers : AnchorNumbers) (attributes : Attributes (List Char)) :
    Attributes Nat × AnchorNumbers :=
  match attributes.anchor with
  | none => (⟨none, attributes.tag⟩, numbers)
  | some name => (⟨some numbers.length, attributes.tag⟩, numbers.next name)

mutual

/-- The node with numbers for anchors, and the numbers after it.  Every alias must have an anchor
before it. -/
def number? (numbers : AnchorNumbers) : NamedNode → Option (NumberedNode × AnchorNumbers)
  | .alias name => do return (.alias (← numbers.lookup name), numbers)
  | .scalar attributes isPlain content =>
    let (attributes, numbers) := numberAttributes numbers attributes
    some (.scalar attributes isPlain content, numbers)
  | .sequence attributes items => do
    let (attributes, numbers) := numberAttributes numbers attributes
    let (items, numbers) ← numberItems? numbers items
    return (.sequence attributes items, numbers)
  | .mapping attributes members => do
    let (attributes, numbers) := numberAttributes numbers attributes
    let (members, numbers) ← numberMembers? numbers members
    return (.mapping attributes members, numbers)

/-- The items with numbers for anchors, and the numbers after them. -/
def numberItems? (numbers : AnchorNumbers) :
    List NamedNode → Option (List NumberedNode × AnchorNumbers)
  | [] => some ([], numbers)
  | item :: rest => do
    let (item, numbers) ← number? numbers item
    let (rest, numbers) ← numberItems? numbers rest
    return (item :: rest, numbers)

/-- The members with numbers for anchors, and the numbers after them. -/
def numberMembers? (numbers : AnchorNumbers) :
    List (NamedNode × NamedNode) → Option (List (NumberedNode × NumberedNode) × AnchorNumbers)
  | [] => some ([], numbers)
  | (key, value) :: rest => do
    let (key, numbers) ← number? numbers key
    let (value, numbers) ← number? numbers value
    let (rest, numbers) ← numberMembers? numbers rest
    return ((key, value) :: rest, numbers)

end

/-- The anchor before a node. -/
def anchor? : NumberedNode → Option Nat
  | .alias _ => none
  | .scalar attributes _ _ => attributes.anchor
  | .sequence attributes _ => attributes.anchor
  | .mapping attributes _ => attributes.anchor

mutual

/-- The node and all nodes in it, in the order of the text. -/
def all (node : NumberedNode) : List NumberedNode :=
  node :: match node with
    | .alias _ => []
    | .scalar .. => []
    | .sequence _ items => allItems items
    | .mapping _ members => allMembers members

/-- The items and all nodes in them, in the order of the text. -/
def allItems : List NumberedNode → List NumberedNode
  | [] => []
  | item :: rest => item.all ++ allItems rest

/-- The members and all nodes in them, in the order of the text. -/
def allMembers : List (NumberedNode × NumberedNode) → List NumberedNode
  | [] => []
  | (key, value) :: rest => key.all ++ value.all ++ allMembers rest

end

/-- The nodes with an anchor in and below a node, the last one in the text first. -/
def anchored (node : NumberedNode) : List (Nat × NumberedNode) :=
  (node.all.filterMap fun node => node.anchor?.map fun number => (number, node)).reverse

/-- How often a node counts without those below it: a collection at both its ends. -/
def ownExtent : NumberedNode → Nat
  | .alias _ => 1
  | .scalar .. => 1
  | .sequence .. => 2
  | .mapping .. => 2

/-- The size of a node with all those below it. -/
def extent (node : NumberedNode) : Nat :=
  node.all.foldl (fun total part => total + ownExtent part) 0

end Node

end Settings.Yaml
