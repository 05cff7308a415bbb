import Settings.Files.FileSystem

/-!
File systems that hold what was read from a few paths, and nothing else.
-/

namespace Settings.Files

/-- The directory with a name in another one, empty if there is none. -/
def directoryOf (name : String) (directory : Directory) : Directory :=
  match directory.find? name with
  | some (.directory inner) => inner
  | _ => ⟨[], true⟩

/-- The directory with a node in the place of an entry. -/
def withEntry (name : String) (node : Node) (directory : Directory) : Directory :=
  { directory with entries := (name, node) :: directory.entries.filter (·.1 ≠ name) }

/-- The directory with directories for the names on a path. -/
def withDirectories : List String → Directory → Directory
  | [], directory => directory
  | name :: rest, directory =>
    withEntry name (.directory (withDirectories rest (directoryOf name directory))) directory

/-- The directory with a node at the end of the names on a path. -/
def withNode (node : Node) : List String → Directory → Directory
  | [], directory => directory
  | [name], directory => withEntry name node directory
  | name :: rest, directory =>
    withEntry name (.directory (withNode node rest (directoryOf name directory))) directory

/-- The names on a path without those that lead back. -/
def straightened (names : List String) : List String :=
  names.foldl
    (fun read name =>
      if name = "." then read else if name = ".." then read.dropLast else read ++ [name])
    []

end Settings.Files

namespace Settings.FileSystem

open Files

/-- The file system without files, in a working directory. -/
def emptyAt (working : List String) : FileSystem := ⟨withDirectories working ⟨[], true⟩, working⟩

/-- The file system in which a path leads to a node. -/
def withNodeAt (files : FileSystem) (path : String) (node : Node) : FileSystem :=
  let names := files.namesFromRoot path
  let places := (List.range names.length).map fun count => straightened (names.take count)
  let root := places.foldl (fun root place => withDirectories place root) files.root
  { files with root := withNode node (straightened names) root }

end Settings.FileSystem
