import Settings.Command.Error
import Settings.Json

/-!
The command that lists the plugins under a root.
-/

namespace Settings.Command

/-- The description of a plugin as an object on indented lines. -/
def pluginText (plugin : Plugin) : String :=
  Json.objectBlock "  " [
    ("plugin_id", Json.ofText plugin.id),
    ("resource_paths", Json.listBlock "    " (plugin.artifacts.map Json.ofText)),
    ("loader_exclude_patterns", Json.listBlock "    " (plugin.excludePatterns.map Json.ofText))]

/-- The list of all plugins under a root whose artifacts have an extension. -/
def plugins (files : FileSystem) (root extension : String) : Except CommandError String := do
  let found ← (Plugin.discover files ⟨root, extension, []⟩).mapError .plugins
  return Json.listBlock "" (found.map pluginText) ++ "\n"

end Settings.Command
