import Settings.Command.Error
import Settings.Literal.Tag
import Settings.Store.Basic

/-!
The commands on a store: the text of one setting, and the text of all settings.

Neither shows a secret: a value is written in its masked form unless a single
setting is asked for with `reveal`.
-/

namespace Settings.Command

/-- The text of the setting under a key, read under a tag. -/
def get (store : Store) (key tagText : String) (reveal : Bool) : Outcome CommandError String := do
  let tag ← Outcome.ofExcept ((Literal.readTag tagText.toList).mapError (.invalidTag tagText))
  match ← (store.getValue key tag).mapError (Stop.map .store) with
  | none => throw (.failed (.keyNotSet key))
  | some value => return if reveal then value.render else value.renderMasked

/-- The key and the tag that an entry `KEY=TAG` of a schema declares. -/
def readDeclaration (entry : String) : Except CommandError (String × Tag) :=
  let key := entry.toList.takeWhile (· ≠ '=')
  match entry.toList.drop key.length with
  | [] => .error (.schemaForm entry)
  | _ :: tag => do
    let tag ← (Literal.readTag tag).mapError (.invalidSchemaTag entry)
    return (String.ofList (Text.trim key), tag)

/-- The tags of declared keys.  Of entries with the same key the last one counts. -/
def readSchema (entries : List String) : Except CommandError (Table Tag) := do
  return Table.ofList (← entries.mapM readDeclaration)

/-- The text shown for a setting under a schema: a declared setting in its masked form,
any other as it is stored. -/
def renderSetting (store : Store) (schema : Table Tag) (entry : String × String) :
    Outcome CommandError (String × String) :=
  match schema.get? entry.1 with
  | none => .ok entry
  | some tag => do
    let value ← (store.getValue entry.1 tag).mapError (Stop.map .store)
    return (entry.1, (value.map Value.renderMasked).getD "")

/-- The settings as properties, each in the form of its declared type. -/
def renderAll (store : Store) (entries : List String) : Outcome CommandError String := do
  let schema ← Outcome.ofExcept (readSchema entries)
  let shown ← store.texts.entries.mapM (renderSetting store schema)
  return Properties.write (Table.ofList shown)

end Settings.Command
