import Settings.Value.EnumSet

/-!
Type tags: the shapes into which a setting can be read.
-/

namespace Settings

/-- The type of a value. -/
inductive Tag where
  | int
  | long
  | bool
  | float
  | double
  | text
  /-- Text that is masked wherever it would be shown. -/
  | secret
  | member (set : EnumSet)
  | duration
  | memorySize
  /-- A map from texts to texts. -/
  | map
  /-- A list whose elements all have one type. -/
  | list (element : Tag)
deriving Repr, DecidableEq

namespace Tag

/-- Values of this type are secrets, or lists of them. -/
def isSensitive : Tag → Bool
  | .secret => true
  | .list element => element.isSensitive
  | _ => false

/-- The type below all list layers. -/
def innermost : Tag → Tag
  | .list element => element.innermost
  | tag => tag

/-- The number of list layers. -/
def depth : Tag → Nat
  | .list element => element.depth + 1
  | _ => 0

/-- The type is a list. -/
def isList : Tag → Bool
  | .list _ => true
  | _ => false

/-- The name of a type, as it is read on the command line. -/
def name : Tag → String
  | .int => "int"
  | .long => "long"
  | .bool => "bool"
  | .float => "float"
  | .double => "double"
  | .text => "string"
  | .secret => "password"
  | .member set => "enum(" ++ "|".intercalate set.members ++ ")"
  | .duration => "duration"
  | .memorySize => "memory"
  | .map => "map"
  | .list element => "list<" ++ element.name ++ ">"

end Tag

end Settings
