import Settings.Command.Run
import Settings.Files.Snapshot

/-!
The program: it reads what a request needs, runs it, and writes the answer.
-/

namespace Settings.Program

/-- What is taken for an entry that cannot be read.  Among artifacts one that leads nowhere is no
file, and among plugins it is no directory; any other one is taken for a link to itself. -/
def unreadable (name : String) (depth : Nat) : IO.Error → Files.Node
  | .noFileOrDirectory .. => if depth = 0 then .directory ⟨[], true⟩ else .link name
  | _ => .link name

/-- What a path leads to, with directories down to a depth, and with the contents of files if they
are asked for. -/
def readNode (contents : Bool) (depth : Nat) (path : String) : IO Files.Node := do
  let place := (← IO.currentDir) / path
  let metadata ← place.metadata
  if metadata.type == .dir then
    match depth with
    | 0 => return .directory ⟨[], true⟩
    | depth + 1 =>
      try
        let entries ← place.readDir
        let nodes ← entries.toList.mapM fun entry => do
          let name := entry.fileName
          try return (name, ← readNode contents depth (Files.join place.toString name))
          catch error => return (name, unreadable name depth error)
        return .directory ⟨nodes, true⟩
      catch
        | .permissionDenied .. => return .directory ⟨[], false⟩
        | error => throw error
  else if contents then return .file (← IO.FS.readBinFile place).data.toList
  else if metadata.type == .file then return .file []
  else return .socket

/-- The file system with what a path leads to. -/
def withPath (files : FileSystem) (contents : Bool) (depth : Nat) (path : String) :
    IO FileSystem := do
  try return files.withNodeAt path (← readNode contents depth path)
  catch _ => return files

/-- The file system with what a request needs. -/
def filesFor (files : FileSystem) : Option Command.Request → IO FileSystem
  | some (.get file _ _ _) => withPath files true 0 file
  | some (.render file _) => withPath files true 0 file
  | some (.plugins directory _) => withPath files false 2 directory
  | _ => return files

/-- The environment of the running program. -/
def readVariables : IO Environment.Variables := do
  try
    let content ← IO.FS.readBinFile "/proc/self/environ"
    let entries := (String.fromUTF8? content).map fun text => text.splitOn "\x00"
    return (entries.getD []).filterMap fun entry =>
      match entry.splitOn "=" with
      | name :: text :: rest => some (name, "=".intercalate (text :: rest))
      | _ => none
  catch _ => return []

end Settings.Program

open Settings in
/-- Runs the program with the arguments of the command line. -/
def main (arguments : List String) : IO UInt32 := do
  let working := Files.pathNames (← IO.currentDir).toString
  let request := Command.Request.read? Plugin.defaultExtension arguments
  let files ← Program.withPath (FileSystem.emptyAt working) true 0 Environment.fileName
  let files ← Program.filesFor files request
  let exit := Command.run files (← Program.readVariables) arguments
  match exit with
  | .success output => (← IO.getStdout).putStr output
  | .failure error => (← IO.getStderr).putStr error.report
  | .misuse => (← IO.getStderr).putStr "error: the arguments are not understood\n"
  | .aborted cause => (← IO.getStderr).putStr (cause.message ++ "\n")
  return exit.status.toUInt32
