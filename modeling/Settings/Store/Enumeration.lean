import Settings.Store.Basic

/-!
Settings whose values are the variants of an enumeration.

The variants and the members of the set that names them are two lists, and a
variant is named by the member at its position.  Either list may be longer.
-/

namespace Settings

/-- Variants listed in the order of the members of the set that names them. -/
structure Enumeration (α : Type) where
  set : EnumSet
  variants : List α

namespace Store

variable {α : Type}

/-- The variant named by the text under a key. -/
def getVariant (store : Store) (enumeration : Enumeration α) (key : String) :
    Outcome StoreError (Option α) := do
  let tag := Tag.member enumeration.set
  match ← store.getValue key tag with
  | none => return none
  | some (.member member) =>
    match enumeration.variants[member.index]? with
    | some variant => return some variant
    | none => throw (.failed (unsupported key tag))
  | some _ => throw (.failed (unsupported key tag))

/-- Write the name of a variant under a key: how the write ends, and the store after it.  The write
is refused, and the store left as it is, if the variant is not listed, or no member stands at its
position. -/
def setVariant [DecidableEq α] (store : Store) (enumeration : Enumeration α) (key : String)
    (variant : α) : Except StoreError Unit × Store :=
  match (enumeration.variants.idxOf? variant).bind enumeration.set.member? with
  | some member => (.ok (), store.setValue key (.member member))
  | none => (.error (unsupported key (.member enumeration.set)), store)

end Store

end Settings
