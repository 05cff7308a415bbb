import Settings.Coercion
import Settings.Store.Error
import Settings.Text.Listing
import Settings.Typed

/-!
Stores of settings: raw texts under text keys, read and written under types.

A store keeps texts only.  Every typed read coerces the stored text anew, and
every typed write stores the canonical text of the value.
-/

namespace Settings

/-- A finite map from keys to raw texts. -/
structure Store where
  texts : Table String
deriving DecidableEq

namespace Store

/-- The store without settings. -/
def empty : Store := ⟨Table.empty⟩

instance : Inhabited Store := ⟨empty⟩

/-- The raw text under a key. -/
def raw? (store : Store) (key : String) : Option String := store.texts.get? key

/-- The store with a raw text under a key. -/
def setText (store : Store) (key text : String) : Store := ⟨store.texts.insert key text⟩

/-- The store with the canonical text of a value under a key. -/
def setValue (store : Store) (key : String) (value : Value) : Store :=
  store.setText key value.render

/-- The store with an element of a stored type under a key. -/
def set {α : Type} [Typed α] (store : Store) (key : String) (value : α) : Store :=
  store.setValue key (Typed.toValue value)

/-- The key is present. -/
def contains (store : Store) (key : String) : Bool := store.texts.contains key

/-- The store without a key. -/
def remove (store : Store) (key : String) : Store := ⟨store.texts.erase key⟩

/-- The keys in increasing order. -/
def keys (store : Store) : List String := store.texts.keys

/-- The number of keys. -/
def size (store : Store) : Nat := store.texts.size

/-- The store overridden by the settings of another one. -/
def override (store other : Store) : Store := ⟨store.texts.override other.texts⟩

/-- The store of a table of properties. -/
def ofProperties (properties : Table String) : Store := ⟨properties⟩

/-- The settings as properties. -/
def toProperties (store : Store) : Table String := store.texts

/-- A listing for developers, which shows the keys and no texts. -/
def listing (store : Store) : String :=
  "Configuration " ++ Text.braced (" keys: " ++ Text.listedAll store.keys ++ " ")

/-- The value under a key, read under a tag. -/
def getValue (store : Store) (key : String) (tag : Tag) : Outcome StoreError (Option Value) :=
  match store.raw? key with
  | none => .ok none
  | some text => ((coerce tag (.text text)).map some).mapError (Stop.map (.conversion key))

/-- The error of a key whose value has no element of the requested type. -/
def unsupported (key : String) (tag : Tag) : StoreError :=
  .conversion key (.unsupported tag.name)

/-- The element of a stored type under a key. -/
def get (α : Type) [Typed α] (store : Store) (key : String) : Outcome StoreError (Option α) := do
  match ← store.getValue key (Typed.tag α) with
  | none => return none
  | some value =>
    match Typed.ofValue? value with
    | some element => return some element
    | none => throw (.failed (unsupported key (Typed.tag α)))

/-- The element of a stored type under a key, or a default if the key is absent. -/
def getOr {α : Type} [Typed α] (store : Store) (key : String) (default : α) :
    Outcome StoreError α := do
  return (← store.get α key).getD default

end Store

/-- A listing for developers of the names of properties. -/
def Properties.listing (properties : Table String) : String :=
  "Properties " ++ Text.braced (" names: " ++ Text.listedAll properties.keys ++ " ")

end Settings
