/-!
Paths as texts: the names on them, and the parts of the last one.
-/

namespace Settings.Files

/-- The names between the slashes of a path.  A slash at the end asks for a directory and
stands for the name of the directory itself. -/
def pathNames (path : String) : List String :=
  let names := go path.toList
  let dir := if path.toList.getLast? = some '/' then ["."] else []
  names.map String.ofList ++ dir
where
  /-- The non-empty pieces between slashes. -/
  go : List Char → List (List Char)
    | [] => []
    | [c] => if c = '/' then [] else [[c]]
    | c :: next :: rest =>
      if c = '/' then go (next :: rest)
      else if next = '/' then [c] :: go (next :: rest)
      else
        match go (next :: rest) with
        | [] => [[c]]
        | name :: others => (c :: name) :: others

/-- The path begins at the root of the file system, outside of the tree. -/
def isAbsolute (path : String) : Bool := path.toList.head? = some '/'

/-- A path made of a directory and a name in it. -/
def join (directory name : String) : String :=
  if directory.isEmpty || directory.toList.getLast? = some '/' then directory ++ name
  else directory ++ "/" ++ name

/-- The last name of a path. -/
def fileName? (path : String) : Option String :=
  match ((pathNames path).filter (· ≠ ".")).getLast? with
  | some ".." => none
  | name => name

/-- The text after the last dot of a name, unless that dot is its first character. -/
def nameExtension? (name : String) : Option String :=
  let reversed := name.toList.reverse
  let suffix := reversed.takeWhile (· ≠ '.')
  match reversed.drop suffix.length with
  | [] => none
  | [_] => none
  | _ => some (String.ofList suffix.reverse)

/-- The extension of the last name of a path. -/
def extension? (path : String) : Option String := (fileName? path).bind nameExtension?

end Settings.Files
