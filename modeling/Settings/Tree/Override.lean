import Settings.Tree

/-!
Overriding one tree of settings by another.
-/

namespace Settings.Tree

mutual

/-- A tree overridden by another one: mappings are united member by member, and everything else
is replaced. -/
def override (old : Tree) : Tree → Tree
  | .mapping members =>
    match old with
    | .mapping entries => .mapping (overrideMembers entries members)
    | _ => .mapping members
  | new => new

/-- The members of a mapping overridden by those of another one. -/
def overrideMembers (entries : Entries Tree) : List (String × Tree) → Entries Tree
  | [] => entries
  | (name, new) :: rest =>
    let value :=
      match Entries.find? name entries with
      | some old => override old new
      | none => new
    overrideMembers (Entries.put name value entries) rest

end

end Settings.Tree
