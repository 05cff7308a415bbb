import Settings.Binary.Shortest
import Settings.Table

/-!
Trees of settings: what a structured document holds once its text form is gone.
-/

namespace Settings

/-- A node of a tree of settings.  The members of a mapping are kept in key order. -/
inductive Tree where
  | null
  | bool (value : Bool)
  /-- An integer, of which a store accepts those of at most 64 bits. -/
  | integer (value : Int)
  | real (value : Binary .double)
  | text (value : String)
  | list (items : List Tree)
  | mapping (members : List (String × Tree))
deriving Inhabited

namespace Tree

/-- The mapping of a list of members; of members with the same name the last one counts. -/
def ofMembers (members : List (String × Tree)) : Tree :=
  .mapping (members.foldl (fun entries member => Entries.put member.1 member.2 entries) [])

end Tree

end Settings
