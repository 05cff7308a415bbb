import Settings.Command.Error
import Settings.Environment.Overrides
import Settings.Tree.Flatten
import Settings.Yaml.Document
import Settings.Yaml.Written

/-!
Loading stores from files, and writing them as documents.

A structured document is overridden by environment variables; properties are
taken as they are.  The extension of the file tells the two apart.
-/

namespace Settings

namespace Store

/-- The tree of the document at a path.  What is not a file holds an empty document. -/
def documentTree (files : FileSystem) (path : String) : Except StoreError Tree :=
  match files.resolve path with
  | .ok (.file _) =>
    match files.readText path with
    | .error _ => .error .load
    | .ok text =>
      match Yaml.read? text.toList with
      | some document => .ok document
      | none => .error .load
  | _ => .ok (.mapping [])

/-- The store of the document at a path, overridden by the variables whose names begin with a
text. -/
def loadDocument (files : FileSystem) (path start : String)
    (environment : Environment.Variables) : Except StoreError Store :=
  if files.existsAt path then do
    let document ← documentTree files path
    match (document.override (Environment.overrides start environment)).toStore? with
    | some store => return store
    | none => throw .load
  else .error (.fileNotFound path)

/-- The store of the properties at a path. -/
def loadProperties (files : FileSystem) (path : String) : Except StoreError Store :=
  if files.existsAt path then do
    let text ← (files.readText path).mapError (.file path)
    let properties ← (Properties.read text.toList).mapError .malformed
    return ofProperties properties
  else .error (.fileNotFound path)

/-- The text of the document that holds a store, if a file can be written at a path. -/
def writeDocument (files : FileSystem) (path : String) (store : Store) :
    Except StoreError String := do
  (files.checkWrite path).mapError (.file path)
  return Yaml.write store.texts

end Store

namespace Command

/-- What the names of variables that override documents begin with. -/
def variableStart : String := "CONFVAL_"

/-- The path is that of a structured document. -/
def isDocument (path : String) : Bool :=
  Files.extension? path == some "yaml" || Files.extension? path == some "yml"

/-- The store of the file at a path. -/
def load (files : FileSystem) (path : String) (environment : Environment.Variables) :
    Except CommandError Store :=
  if isDocument path then
    (Store.loadDocument files path variableStart environment).mapError (.loadDocument path)
  else (Store.loadProperties files path).mapError (.loadProperties path)

end Command

end Settings
