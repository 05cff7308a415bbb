import Settings.Table
import Settings.Text.Case

/-!
Enumerations: named sets of members that are looked up without regard to case.

Members are looked up in a table from their names in upper case to their positions.  The
table is filled in the order of the members, and of members with one upper case form the
first keeps the entry.
-/

namespace Settings

/-- A named list of members.  Members may repeat, or differ only in case. -/
structure EnumSet where
  name : String
  members : List String
deriving Repr, DecidableEq

/-- A member of a set, given by its position. -/
structure EnumMember where
  set : EnumSet
  index : Nat
  valid : index < set.members.length
deriving Repr, DecidableEq

/-- The member at a position. -/
def EnumSet.member? (set : EnumSet) (index : Nat) : Option EnumMember :=
  if h : index < set.members.length then some ⟨set, index, h⟩ else none

/-- The key of a name in the table: the name in upper case. -/
def EnumSet.key (name : String) : String :=
  String.ofList (Text.upper name.toList)

/-- The positions of the members under their keys. -/
def EnumSet.table (set : EnumSet) : Table Nat :=
  set.members.zipIdx.foldl
    (fun table entry => table.insertNew (EnumSet.key entry.1) entry.2) .empty

/-- The member at the position that the table holds for a name. -/
def EnumSet.lookup (set : EnumSet) (name : String) : Option EnumMember :=
  (set.table.get? (EnumSet.key name)).bind set.member?

/-- The name of a member, spelled as in its set. -/
def EnumMember.name (member : EnumMember) : String :=
  member.set.members.get ⟨member.index, member.valid⟩

end Settings
