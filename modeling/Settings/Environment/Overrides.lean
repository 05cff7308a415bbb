import Settings.Environment.Value
import Settings.Tree.Override

/-!
The settings that environment variables override.

A variable whose name begins with a certain text sets the value at the path that
the rest of its name spells in lower case, with two underscores or a dot between
the names on the path.
-/

namespace Settings.Environment

/-- Names and texts of variables, in order. -/
abbrev Variables := List (String × String)

/-- The rest of a name after a text that it begins with in any case of its letters. -/
def afterStart? (start name : List Char) : Option (List Char) :=
  if (name.take start.length).map Char.toLower = start.map Char.toLower then
    some (name.drop start.length)
  else none

/-- The text with dots for pairs of underscores, taken from the left. -/
def dotted : List Char → List Char
  | '_' :: '_' :: rest => '.' :: dotted rest
  | c :: rest => c :: dotted rest
  | [] => []

/-- The names between the dots of a text. -/
def splitDots : List Char → List (List Char)
  | [] => [[]]
  | c :: rest =>
    if c = '.' then [] :: splitDots rest
    else
      match splitDots rest with
      | [] => [[c]]
      | name :: others => (c :: name) :: others

/-- The path that the name of a variable spells after a start, if no name on it is empty. -/
def path? (start : String) (name : String) : Option (List String) := do
  let rest ← afterStart? start.toList name.toList
  let names := splitDots ((dotted (Text.trim rest)).map Char.toLower)
  if names.any List.isEmpty then none else some (names.map String.ofList)

/-- The tree with a node at a path and nothing else. -/
def treeAt (node : Tree) : List String → Tree
  | [] => node
  | name :: rest => .mapping [(name, treeAt node rest)]

/-- The tree of the variables whose names begin with a text.  Where two of them set one path, the
later one counts. -/
def overrides (start : String) (environment : Variables) : Tree :=
  environment.foldl
    (fun tree (name, text) =>
      match path? start name with
      | some path => tree.override (treeAt (readValue text) path)
      | none => tree)
    (.mapping [])

end Settings.Environment
