import Settings.Proofs.Files.Trees

/-!
Trees of files to which an entry is added.

A new name answers look-ups that had no answer before, and changes no other one.  So a path either
led to nothing, and may now lead through the new entry, or it leads to the same place as before.
In a listing the new name may stand among the others, whose order stays the same.
-/

namespace Settings

namespace Files

/-- The second directory is the first one with the entry added in it or somewhere below it, at any
place among the entries there, under a name that none of them has. -/
inductive Adds (name : String) (node : Node) : Directory → Directory → Prop where
  | here {front back : List (String × Node)} {listable : Bool}
      (fresh : name ∉ (front ++ back).map Prod.fst) :
      Adds name node ⟨front ++ back, listable⟩ ⟨front ++ (name, node) :: back, listable⟩
  | under {front back : List (String × Node)} {listable : Bool} {inner inner' : Directory}
      {parent : String} (first : parent ∉ front.map Prod.fst)
      (inside : Adds name node inner inner') :
      Adds name node ⟨front ++ (parent, .directory inner) :: back, listable⟩
        ⟨front ++ (parent, .directory inner') :: back, listable⟩

/-- The directories are equal, or the entry is added in the second one. -/
def AddsOrSame (name : String) (node : Node) (left right : Directory) : Prop :=
  left = right ∨ Adds name node left right

/-- What is found under a name is found there whether or not the directory has another entry. -/
theorem sameAnswer_self {related : Directory → Directory → Prop}
    (reflexive : ∀ directory, related directory directory) (answer : Option Node) :
    SameAnswer related answer answer := by
  cases answer with
  | none => exact .nothing
  | some node =>
      cases node with
      | file content => exact .file content
      | link target => exact .link target
      | socket => exact .socket
      | directory inner => exact .directory (reflexive inner)

section

variable {name : String} {node : Node} {left right : Directory}

/-- A look-up that had an answer has the same one, or a directory in which the entry is added. -/
theorem Adds.sameAnswer (adds : Adds name node left right) (asked : String) :
    left.find? asked = none ∨
      SameAnswer (AddsOrSame name node) (left.find? asked) (right.find? asked) := by
  have same := @sameAnswer_self (AddsOrSame name node) fun _ => .inl rfl
  cases adds with
  | @here front back listable fresh =>
      by_cases new : asked = name
      · subst new
        exact .inl (Listing.find?_eq_none_iff.2 fresh)
      · refine .inr ?_
        have other : (asked == name) = false := beq_eq_false_iff_ne.2 new
        simp only [Listing.find?, List.lookup_append, List.lookup_cons, other]
        exact same _
  | @under front back listable inner inner' parent first inside =>
      refine .inr ?_
      simp only [Listing.find?, List.lookup_append, List.lookup_cons]
      cases there : asked == parent with
      | true =>
          obtain rfl := eq_of_beq there
          have absent : front.lookup asked = none :=
            (@Listing.find?_eq_none_iff _ ⟨front, listable⟩).2 first
          rw [absent]
          exact .directory (.inr inside)
      | false => exact same _

/-- The names stay in their order, and the new one may stand among them. -/
theorem Adds.names (adds : Adds name node left right) :
    left.names = right.names ∨
      ∃ front back, left.names = front ++ back ∧ right.names = front ++ name :: back ∧
        name ∉ front ++ back := by
  cases adds with
  | @here front back listable fresh =>
      refine .inr ⟨front.map Prod.fst, back.map Prod.fst, ?_, ?_, ?_⟩
      · exact List.map_append
      · rw [Listing.names, List.map_append, List.map_cons]
      · rwa [← List.map_append]
  | under first inside => exact .inl (by simp [Listing.names])

theorem Adds.listable (adds : Adds name node left right) : left.listable = right.listable := by
  cases adds <;> rfl

end

end Files

namespace FileSystem

open Files

/-- The second file system is the first one with the entry added to one of its directories. -/
structure Adds (files other : FileSystem) (name : String) (node : Node) : Prop where
  tree : Files.Adds name node files.root other.root
  working : files.working = other.working

/-- The path leads to nothing. -/
def LeadsNowhere (files : FileSystem) (path : String) : Prop :=
  files.resolve path = .error .notFound

theorem LeadsNowhere.eq {files : FileSystem} {path : String} (nowhere : files.LeadsNowhere path) :
    files.resolve path = .error .notFound := nowhere

section

variable {files other : FileSystem} {name : String} {node : Node} {path : String}

theorem LeadsNowhere.not_leadsToDirectory (nowhere : files.LeadsNowhere path) :
    ¬files.LeadsToDirectory path := by
  simp [LeadsToDirectory, nowhere.eq]

theorem LeadsNowhere.not_leadsToFile (nowhere : files.LeadsNowhere path) :
    ¬files.LeadsToFile path := by
  simp [LeadsToFile, nowhere.eq]

theorem LeadsNowhere.not_broken (nowhere : files.LeadsNowhere path) : ¬files.Broken path := by
  simp [Broken, nowhere.eq]

theorem Adds.within (adds : files.Adds other name node) :
    files.Within other (AddsOrSame name node) where
  root := .inr adds.tree
  working := adds.working
  entries left right holds asked := by
    rcases holds with rfl | inside
    · exact .inr (sameAnswer_self (fun _ => .inl rfl) _)
    · exact inside.sameAnswer asked

/-- A path that led somewhere leads to a directory, to a file or astray as before. -/
theorem Adds.leadsTo_iff (adds : files.Adds other name node)
    (somewhere : ¬files.LeadsNowhere path) :
    (files.LeadsToDirectory path ↔ other.LeadsToDirectory path) ∧
      (files.LeadsToFile path ↔ other.LeadsToFile path) ∧
      (files.Broken path ↔ other.Broken path) :=
  leadsTo_iff_of_sameEnd ((adds.within.resolve path).resolve_left somewhere)

theorem Adds.isFile (adds : files.Adds other name node) (somewhere : ¬files.LeadsNowhere path) :
    other.isFile path = files.isFile path := by
  have ends := (adds.within.resolve path).resolve_left somewhere
  rw [FileSystem.isFile, FileSystem.isFile]
  generalize files.resolve path = result at ends ⊢
  generalize other.resolve path = result' at ends ⊢
  cases ends with
  | fault | file | socket | directory => rfl

/-- A directory that was listed is listed as before, or with the new name in addition. -/
theorem Adds.list (adds : files.Adds other name node) (somewhere : ¬files.LeadsNowhere path) :
    other.list path = files.list path ∨
      ∃ front back, files.list path = .ok (front ++ back) ∧
        other.list path = .ok (front ++ name :: back) ∧ name ∉ front ++ back := by
  have ends := (adds.within.resolve path).resolve_left somewhere
  rw [FileSystem.list, FileSystem.list]
  generalize files.resolve path = result at ends ⊢
  generalize other.resolve path = result' at ends ⊢
  cases ends with
  | fault | file | socket => exact .inl rfl
  | @directory left right _ _ holds =>
      rcases holds with rfl | inside
      · exact .inl rfl
      · simp only [Listing.list, ← inside.listable]
        cases left.listable with
        | false => exact .inl rfl
        | true =>
            rcases inside.names with same | ⟨front, back, before, after, fresh⟩
            · exact .inl (congrArg Except.ok same.symm)
            · exact .inr ⟨front, back, congrArg Except.ok before, congrArg Except.ok after, fresh⟩

end

end FileSystem

end Settings
