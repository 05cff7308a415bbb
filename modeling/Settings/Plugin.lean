import Settings.Files.FileSystem
import Settings.Text.Digits

/-!
Discovery of plugins laid out as `<root>/<plugin>/<artifact>`.

Every entry of the root that leads to a directory is a plugin, and every file in
it with the configured extension is one of its artifacts.  A plugin without
artifacts is an error.  The result is in order of plugin and file names, in
whatever order the directories are listed.
-/

namespace Settings

/-- What is needed to load a plugin. -/
structure Plugin where
  id : String
  artifacts : List String
  excludePatterns : List String
deriving Repr, DecidableEq

/-- Why the discovery of plugins fails. -/
inductive PluginError where
  | noArtifacts (directory : String)
  | file (path : String) (cause : Files.Fault)
deriving Repr, DecidableEq

namespace PluginError

/-- The wording of an error. -/
def message : PluginError → String
  | .noArtifacts directory => "Plugin directory " ++ directory ++ " contains no plugin artifacts"
  | .file path cause => "Failed to read plugin path " ++ path ++ ": " ++ cause.message

/-- The wording of an error and of the cause under it. -/
def chain (error : PluginError) : List String :=
  match error with
  | .noArtifacts _ => [error.message]
  | .file _ cause => [error.message, cause.message]

end PluginError

namespace Plugin

/-- What is looked for, and where. -/
structure Search where
  root : String
  extension : String
  excludePatterns : List String
deriving Repr, DecidableEq

/-- The extension of artifacts where no other one is asked for. -/
def defaultExtension : String := "jar"

/-- The names in a directory. -/
def listDirectory (files : FileSystem) (path : String) : Except PluginError (List String) :=
  (files.list path).mapError (.file path)

/-- A name in a plugin directory is that of an artifact. -/
def isArtifact (files : FileSystem) (search : Search) (directory name : String) :
    Except PluginError Bool := do
  let path := Files.join directory name
  let isFile ← (files.isFile path).mapError (.file path)
  return isFile && Files.nameExtension? name == some search.extension

/-- The names of artifacts among the names in a plugin directory, in the same order. -/
def artifactNames (files : FileSystem) (search : Search) (directory : String) :
    List String → Except PluginError (List String)
  | [] => .ok []
  | name :: rest => do
    let found ← isArtifact files search directory name
    let others ← artifactNames files search directory rest
    return if found then name :: others else others

/-- The plugin in a directory of the root. -/
def describe (files : FileSystem) (search : Search) (id : String) :
    Except PluginError Plugin := do
  let directory := Files.join search.root id
  let names ← artifactNames files search directory (← listDirectory files directory)
  if names.isEmpty then throw (.noArtifacts directory)
  let sorted := names.mergeSort fun left right => decide (left ≤ right)
  return ⟨id, sorted.map (Files.join directory), search.excludePatterns⟩

/-- The plugins under the root. -/
def discover (files : FileSystem) (search : Search) : Except PluginError (List Plugin) := do
  let names ← listDirectory files search.root
  let ids := names.filter fun name => files.isDirectory (Files.join search.root name)
  let plugins ← ids.mapM (describe files search)
  return plugins.mergeSort fun left right => decide (left.id ≤ right.id)

end Plugin

end Settings
