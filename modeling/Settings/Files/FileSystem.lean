import Settings.Files.Path

/-!
File systems with symbolic links, and the resolution of paths in them.

The entries of a directory are kept in the order in which it lists them; nothing
but listing depends on that order.  A path that does not begin with a slash
begins at the working directory.

Left out are all permissions but that to list a directory, pipes and devices, and
names and paths that are too long for the system.
-/

namespace Settings

namespace Files

/-- The entries of a directory, in listing order.  They are found by name even if the directory
must not be listed. -/
structure Listing (α : Type) where
  entries : List (String × α)
  listable : Bool := true
deriving Inhabited

/-- The first entry with a name. -/
def Listing.find? {α : Type} (listing : Listing α) (name : String) : Option α :=
  listing.entries.lookup name

/-- The names of the entries. -/
def Listing.names {α : Type} (listing : Listing α) : List String := listing.entries.map Prod.fst

/-- A node of a file system. -/
inductive Node where
  | file (content : List UInt8)
  /-- A symbolic link to a path, which begins at the directory of the link. -/
  | link (target : String)
  | directory (listing : Listing Node)
  /-- Neither a file nor a directory; it cannot be opened. -/
  | socket
deriving Inhabited

/-- Why an operation on a file fails. -/
inductive Fault where
  | notFound
  | notDirectory
  | isDirectory
  | tooManyLinks
  /-- The directory must not be listed. -/
  | denied
  /-- A socket was to be opened. -/
  | noDevice
  | invalidText
deriving Repr, DecidableEq

/-- The wording of a fault. -/
def Fault.message : Fault → String
  | .notFound => "No such file or directory (os error 2)"
  | .notDirectory => "Not a directory (os error 20)"
  | .isDirectory => "Is a directory (os error 21)"
  | .tooManyLinks => "Too many levels of symbolic links (os error 40)"
  | .denied => "Permission denied (os error 13)"
  | .noDevice => "No such device or address (os error 6)"
  | .invalidText => "stream did not contain valid UTF-8"

/-- A directory. -/
abbrev Directory := Listing Node

/-- The names in a directory, if it may be listed. -/
def Listing.list {α : Type} (listing : Listing α) : Except Fault (List String) :=
  if listing.listable then .ok listing.names else .error .denied

/-- What a path leads to: a directory with the directories above it, nearest first, a file or a
socket. -/
inductive Place where
  | directory (directory : Directory) (above : List Directory)
  | file (content : List UInt8)
  | socket
deriving Inhabited

/-- The number of links that are followed on one path. -/
def maxLinks : Nat := 40

end Files

/-- A file system: the directory at the root of all paths, and the names on the path to the
working directory. -/
structure FileSystem where
  root : Files.Directory
  working : List String

namespace FileSystem

open Files

/-- Follow names from a directory, given the directories above it, over at most `links` links. -/
def follow (files : FileSystem) (links : Nat) (current : Directory) (above : List Directory) :
    List String → Except Fault Place
  | [] => .ok (.directory current above)
  | name :: rest =>
    if name = "." then files.follow links current above rest
    else if name = ".." then
      match above with
      | [] => files.follow links current [] rest
      | parent :: others => files.follow links parent others rest
    else
      match current.find? name with
      | none => .error .notFound
      | some (.file content) => if rest.isEmpty then .ok (.file content) else .error .notDirectory
      | some .socket => if rest.isEmpty then .ok .socket else .error .notDirectory
      | some (.directory inner) => files.follow links inner (current :: above) rest
      | some (.link target) =>
        match links with
        | 0 => .error .tooManyLinks
        | links + 1 =>
          if isAbsolute target then files.follow links files.root [] (pathNames target ++ rest)
          else files.follow links current above (pathNames target ++ rest)
termination_by names => (links, names.length)

/-- The names on a path from the root. -/
def namesFromRoot (files : FileSystem) (path : String) : List String :=
  if isAbsolute path then pathNames path else files.working ++ pathNames path

/-- What a path leads to. -/
def resolve (files : FileSystem) (path : String) : Except Fault Place :=
  if path.isEmpty then .error .notFound
  else files.follow maxLinks files.root [] (files.namesFromRoot path)

/-- A path leads to something. -/
def existsAt (files : FileSystem) (path : String) : Bool := (files.resolve path).isOk

/-- A path leads to a directory. -/
def isDirectory (files : FileSystem) (path : String) : Bool :=
  match files.resolve path with
  | .ok (.directory ..) => true
  | _ => false

/-- A path leads to a file.  A path that leads to nothing does not, and any other fault is
reported. -/
def isFile (files : FileSystem) (path : String) : Except Fault Bool :=
  match files.resolve path with
  | .ok (.file _) => .ok true
  | .ok _ => .ok false
  | .error .notFound => .ok false
  | .error fault => .error fault

/-- The names in a directory, in listing order. -/
def list (files : FileSystem) (path : String) : Except Fault (List String) :=
  match files.resolve path with
  | .ok (.directory directory _) => directory.list
  | .ok _ => .error .notDirectory
  | .error fault => .error fault

/-- The content of a file. -/
def readBytes (files : FileSystem) (path : String) : Except Fault (List UInt8) :=
  match files.resolve path with
  | .ok (.file content) => .ok content
  | .ok (.directory directory _) => .error (if directory.listable then .isDirectory else .denied)
  | .ok .socket => .error .noDevice
  | .error fault => .error fault

/-- The text of a file. -/
def readText (files : FileSystem) (path : String) : Except Fault String := do
  match String.fromUTF8? ⟨(← files.readBytes path).toArray⟩ with
  | some text => return text
  | none => throw .invalidText

/-- Follow names to a file that is to be written, as `follow` does.  The last name may be that of
nothing yet. -/
def followToWrite (files : FileSystem) (links : Nat) (current : Directory)
    (above : List Directory) : List String → Except Fault Unit
  | [] => .error .isDirectory
  | name :: rest =>
    if name = "." then files.followToWrite links current above rest
    else if name = ".." then
      match above with
      | [] => files.followToWrite links current [] rest
      | parent :: others => files.followToWrite links parent others rest
    else
      match current.find? name with
      | none => if rest.isEmpty then .ok () else .error .notFound
      | some (.file _) => if rest.isEmpty then .ok () else .error .notDirectory
      | some .socket => .error (if rest.isEmpty then .noDevice else .notDirectory)
      | some (.directory inner) => files.followToWrite links inner (current :: above) rest
      | some (.link target) =>
        match links with
        | 0 => .error .tooManyLinks
        | links + 1 =>
          if isAbsolute target then
            files.followToWrite links files.root [] (pathNames target ++ rest)
          else files.followToWrite links current above (pathNames target ++ rest)
termination_by names => (links, names.length)

/-- Whether a file can be written at a path.  A path with a slash at its end is that of a
directory, whether there is one or not. -/
def checkWrite (files : FileSystem) (path : String) : Except Fault Unit :=
  let names := files.namesFromRoot path
  if path.isEmpty then .error .notFound
  else if path.toList.getLast? = some '/' then
    match files.follow maxLinks files.root [] names.dropLast.dropLast with
    | .ok (.directory ..) => .error .isDirectory
    | .ok _ => .error .notDirectory
    | .error fault => .error fault
  else files.followToWrite maxLinks files.root [] names

end FileSystem

end Settings
