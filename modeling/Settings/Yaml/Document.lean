import Settings.Yaml.Anchor
import Settings.Yaml.Scalar

/-!
The tree of settings that a YAML document holds.

A document holds a mapping, or nothing.  Keys are taken as they are spelled;
everything else is resolved.  A tag of the core schema demands a type, and a
local tag makes a mapping with the tag as its only key.  Nesting and the
repetition of nodes by aliases are limited.
-/

namespace Settings.Yaml

/-- The depth of nested collections in a document. -/
def maxDepth : Nat := 128

/-- How often nodes may be repeated, in proportion to the size of the document. -/
def maxRepetition : Nat := 100

/-- A computation that counts the repetitions left. -/
abbrev Repeating := StateT Nat Option

/-- The node itself or the one that it repeats. -/
def follow (targets : List (Nat × NumberedNode)) : NumberedNode → Repeating NumberedNode
  | .alias number => do
    match ← get with
    | 0 => failure
    | left + 1 => set left
    match targets.lookup number with
    | some node => return node
    | none => failure
  | node => return node

/-- The name that a local tag gives a node. -/
def localName? : Option (List Char) → Option String
  | some ['!'] => some "!"
  | some ('!' :: name) => some (String.ofList name)
  | _ => none

/-- The tree of a node under the local tag before it, if there is one. -/
def underTag {ν : Type} (attributes : Attributes ν) (tree : Tree) : Tree :=
  match localName? attributes.tag with
  | some name => .mapping [(name, tree)]
  | none => tree

/-- The tree of a scalar under a tag that is not a local one.  A tag other than those of the core
schema makes it a text. -/
def resolveTagged? (tag content : List Char) : Option Tree :=
  if tag = coreStart ++ "bool".toList then (readBool? content).map .bool
  else if tag = coreStart ++ "int".toList then (readInteger? content).map .integer
  else if tag = coreStart ++ "float".toList then (readReal? content).map .real
  else if tag = coreStart ++ "null".toList then if isNull content then some .null else none
  else some (.text (String.ofList content))

/-- The tree of a scalar. -/
def scalarTree? {ν : Type} (attributes : Attributes ν) (isPlain : Bool) (content : List Char) :
    Option Tree :=
  let untagged := if isPlain then resolvePlain content else .text (String.ofList content)
  match attributes.tag with
  | none => some untagged
  | some tag =>
    if (localName? (some tag)).isSome then some (underTag attributes untagged)
    else resolveTagged? tag content

/-- The key that a node spells. -/
def keyText (targets : List (Nat × NumberedNode)) (node : NumberedNode) : Repeating String := do
  match ← follow targets node with
  | .scalar _ _ content => return String.ofList content
  | _ => failure

/-- The tree of a node with a bounded depth of nested collections. -/
def readTree (targets : List (Nat × NumberedNode)) (depth : Nat) (node : NumberedNode) :
    Repeating Tree := do
  match ← follow targets node, depth with
  | .scalar attributes isPlain content, _ =>
    match scalarTree? attributes isPlain content with
    | some tree => return tree
    | none => failure
  | .sequence attributes items, depth + 1 =>
    return underTag attributes (.list (← items.mapM (readTree targets depth)))
  | .mapping attributes members, depth + 1 =>
    let members ← members.mapM fun (key, value) => do
      return (← keyText targets key, ← readTree targets depth value)
    return underTag attributes (Tree.ofMembers members)
  | _, _ => failure

/-- The tree of the root of a document.  A tag of the root has no meaning. -/
def readRoot (node : NumberedNode) : Option Tree :=
  match node with
  | .scalar _ true [] => some (.mapping [])
  | .mapping attributes members =>
    let root := Node.mapping { attributes with tag := none } members
    ((readTree node.anchored maxDepth root).run (maxRepetition * node.extent)).map Prod.fst
  | _ => none

/-- The tree of a text, whose root is a mapping. -/
def read? (text : List Char) : Option Tree := do
  let (node, _) ← Node.number? [] (← Node.ofText? text)
  readRoot node

end Settings.Yaml
