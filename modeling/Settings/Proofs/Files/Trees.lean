import Mathlib.Data.List.Nodup
import Settings.Proofs.Files.Paths

/-!
Trees of files, and what can be told of a path in them.

Entries are looked up by name, so nothing that is told of a path depends on the order in which
the directories list their entries (`FileSystem.Relisted`), but for the order of a listing
itself.  In a tree in which no directory lists a name twice no listing does
(`FileSystem.nodup_of_list`).
-/

namespace Settings

namespace Files

/-- No directory in the tree lists a name twice. -/
inductive WellFormed : Node → Prop where
  | file (content : List UInt8) : WellFormed (.file content)
  | link (target : String) : WellFormed (.link target)
  | socket : WellFormed .socket
  | directory {directory : Directory} (distinct : directory.names.Nodup)
      (each : ∀ name node, (name, node) ∈ directory.entries → WellFormed node) :
      WellFormed (.directory directory)

/-- The trees differ at most in the order in which their directories list their entries. -/
inductive SameTree : Node → Node → Prop where
  | file (content : List UInt8) : SameTree (.file content) (.file content)
  | link (target : String) : SameTree (.link target) (.link target)
  | socket : SameTree .socket .socket
  | directory {left right : Directory} (names : left.names.Perm right.names)
      (listable : left.listable = right.listable)
      (each : ∀ name node other, (name, node) ∈ left.entries → (name, other) ∈ right.entries →
        SameTree node other) :
      SameTree (.directory left) (.directory right)

theorem Listing.mem_of_find?_eq_some {name : String} {directory : Directory} {node : Node}
    (found : directory.find? name = some node) : (name, node) ∈ directory.entries := by
  obtain ⟨front, back, split, -⟩ := List.lookup_eq_some_iff.1 found
  rw [split]
  exact List.mem_append_right front (List.mem_cons_self ..)

theorem Listing.find?_eq_none_iff {name : String} {directory : Directory} :
    directory.find? name = none ↔ name ∉ directory.names := by
  rw [Listing.find?, List.lookup_eq_none_iff]
  constructor
  · intro different inside
    obtain ⟨entry, listed, same⟩ := List.mem_map.1 inside
    exact bne_iff_ne.1 (different entry listed) same.symm
  · intro absent entry listed
    refine bne_iff_ne.2 ?_
    rintro rfl
    exact absent (List.mem_map_of_mem listed)

theorem Listing.list_eq_ok_iff {directory : Directory} {names : List String} :
    directory.list = .ok names ↔ directory.listable = true ∧ directory.names = names := by
  rw [Listing.list]
  cases directory.listable <;> simp

theorem Listing.list_eq_denied {directory : Directory} (closed : directory.listable = false) :
    directory.list = .error .denied := by
  rw [Listing.list, closed]
  rfl

/-- Under the same name there are the same trees. -/
theorem SameTree.sameAnswer {left right : Directory}
    (same : SameTree (.directory left) (.directory right)) (name : String) :
    SameAnswer (fun left right => SameTree (.directory left) (.directory right))
      (left.find? name) (right.find? name) := by
  cases same with
  | directory names listable each =>
      have both : left.find? name = none ↔ right.find? name = none := by
        rw [Listing.find?_eq_none_iff, Listing.find?_eq_none_iff, names.mem_iff]
      cases inLeft : left.find? name with
      | none =>
          rw [both.1 inLeft]
          exact .nothing
      | some node =>
          cases inRight : right.find? name with
          | none =>
              rw [both.2 inRight] at inLeft
              cases inLeft
          | some other =>
              have inner := each name node other (Listing.mem_of_find?_eq_some inLeft)
                (Listing.mem_of_find?_eq_some inRight)
              cases inner with
              | file content => exact .file content
              | link target => exact .link target
              | socket => exact .socket
              | directory names listable each =>
                  exact .directory (.directory names listable each)

theorem SameTree.symm {left right : Node} (same : SameTree left right) : SameTree right left := by
  induction same with
  | file content => exact .file content
  | link target => exact .link target
  | socket => exact .socket
  | directory names listable _ ih =>
      exact .directory names.symm listable.symm fun name other node inRight inLeft =>
        ih name node other inLeft inRight

/-- Entries of a well-formed directory with the same name are the same. -/
theorem eq_of_mem_of_nodup {directory : Directory} (distinct : directory.names.Nodup)
    {name : String} {node other : Node} (inside : (name, node) ∈ directory.entries)
    (inside' : (name, other) ∈ directory.entries) : node = other :=
  congrArg Prod.snd (List.inj_on_of_nodup_map distinct inside inside' rfl)

theorem WellFormed.sameTree {node : Node} (wellFormed : WellFormed node) : SameTree node node := by
  induction wellFormed with
  | file content => exact .file content
  | link target => exact .link target
  | socket => exact .socket
  | directory distinct _ ih =>
      refine .directory (.refl _) rfl fun name node other inside inside' => ?_
      cases eq_of_mem_of_nodup distinct inside inside'
      exact ih name node inside

/-- Listing the entries of a well-formed directory in another order gives the same tree. -/
theorem WellFormed.sameTree_of_perm {left right : Directory}
    (wellFormed : WellFormed (.directory left)) (reordered : left.entries.Perm right.entries)
    (listable : left.listable = right.listable) :
    SameTree (.directory left) (.directory right) := by
  cases wellFormed with
  | directory distinct each =>
      refine .directory (reordered.map _) listable fun name node other inLeft inRight => ?_
      cases eq_of_mem_of_nodup distinct inLeft (reordered.mem_iff.2 inRight)
      exact (each name node inLeft).sameTree

/-- Relisting a well-formed tree gives a well-formed tree. -/
theorem SameTree.wellFormed {left right : Node} (same : SameTree left right)
    (wellFormed : WellFormed left) : WellFormed right := by
  induction same with
  | file content => exact .file content
  | link target => exact .link target
  | socket => exact .socket
  | directory names _ _ ih =>
      cases wellFormed with
      | directory distinct inner =>
          refine .directory (names.nodup_iff.1 distinct) ?_
          intro name other inRight
          obtain ⟨⟨_, node⟩, inLeft, rfl⟩ :=
            List.mem_map.1 (names.mem_iff.2 (List.mem_map_of_mem inRight))
          exact ih _ node other inLeft inRight (inner _ node inLeft)

/-- A directory of a well-formed tree answers with well-formed trees. -/
theorem WellFormed.sameAnswer {directory : Directory}
    (wellFormed : WellFormed (.directory directory)) (name : String) :
    SameAnswer (fun left right => left = right ∧ WellFormed (.directory left))
      (directory.find? name) (directory.find? name) := by
  cases wellFormed with
  | directory distinct each =>
      cases found : directory.find? name with
      | none => exact .nothing
      | some node =>
          have inner := each name node (Listing.mem_of_find?_eq_some found)
          cases node with
          | file content => exact .file content
          | link target => exact .link target
          | socket => exact .socket
          | directory inside => exact .directory ⟨rfl, inner⟩

end Files

namespace FileSystem

open Files

/-- No directory in the file system lists a name twice. -/
def WellFormed (files : FileSystem) : Prop := Files.WellFormed (.directory files.root)

/-- The file systems differ at most in the order in which their directories list their entries. -/
structure Relisted (files other : FileSystem) : Prop where
  tree : SameTree (.directory files.root) (.directory other.root)
  working : files.working = other.working

/-- The path leads to a directory. -/
def LeadsToDirectory (files : FileSystem) (path : String) : Prop :=
  ∃ directory above, files.resolve path = .ok (.directory directory above)

/-- The path leads to a file. -/
def LeadsToFile (files : FileSystem) (path : String) : Prop :=
  ∃ content, files.resolve path = .ok (.file content)

/-- The path leads to a directory that can be listed. -/
def Listable (files : FileSystem) (path : String) : Prop := ∃ names, files.list path = .ok names

/-- The directory that the path leads to lists the name. -/
def IsEntry (files : FileSystem) (path name : String) : Prop :=
  ∃ names, files.list path = .ok names ∧ name ∈ names

/-- Following the path fails otherwise than by finding nothing. -/
def Broken (files : FileSystem) (path : String) : Prop :=
  ∃ fault, files.resolve path = .error fault ∧ fault ≠ .notFound

section

variable {files other : FileSystem}

theorem Relisted.simulates (relisted : files.Relisted other) :
    files.Simulates other fun left right => SameTree (.directory left) (.directory right) where
  root := relisted.tree
  working := relisted.working
  entries _ _ same name := same.sameAnswer name

theorem Relisted.symm (relisted : files.Relisted other) : other.Relisted files where
  tree := relisted.tree.symm
  working := relisted.working.symm

theorem Relisted.wellFormed (relisted : files.Relisted other) (wellFormed : files.WellFormed) :
    other.WellFormed :=
  relisted.tree.wellFormed wellFormed

theorem WellFormed.simulates (wellFormed : files.WellFormed) :
    files.Simulates files fun left right => left = right ∧ Files.WellFormed (.directory left) where
  root := ⟨rfl, wellFormed⟩
  working := rfl
  entries _ _ holds name := by
    obtain ⟨rfl, inner⟩ := holds
    exact inner.sameAnswer name

theorem isDirectory_iff {path : String} :
    files.isDirectory path = true ↔ files.LeadsToDirectory path := by
  rw [isDirectory, LeadsToDirectory]
  cases files.resolve path with
  | ok place => cases place <;> simp
  | error fault => simp

theorem isEntry_iff_mem {path name : String} {names : List String}
    (lists : files.list path = .ok names) : files.IsEntry path name ↔ name ∈ names := by
  simp [IsEntry, lists]

/-- In a well-formed file system no listing holds a name twice. -/
theorem nodup_of_list (wellFormed : files.WellFormed) {path : String} {names : List String}
    (lists : files.list path = .ok names) : names.Nodup := by
  have ends := wellFormed.simulates.resolve path
  rw [FileSystem.list] at lists
  generalize files.resolve path = result at ends lists
  cases ends with
  | fault | file | socket => cases lists
  | directory _ _ holds =>
      obtain ⟨-, inner⟩ := holds
      obtain ⟨-, rfl⟩ := Listing.list_eq_ok_iff.1 lists
      cases inner with
      | directory distinct _ => exact distinct

/-- Both list the same names, in some order, or fail alike. -/
theorem Relisted.list (relisted : files.Relisted other) (path : String) :
    (∃ fault, files.list path = .error fault ∧ other.list path = .error fault) ∨
      ∃ names names', files.list path = .ok names ∧ other.list path = .ok names' ∧
        names.Perm names' := by
  have ends := relisted.simulates.resolve path
  rw [FileSystem.list, FileSystem.list]
  generalize files.resolve path = result at ends
  generalize other.resolve path = result' at ends
  cases ends with
  | fault fault => exact .inl ⟨fault, rfl, rfl⟩
  | file | socket => exact .inl ⟨.notDirectory, rfl, rfl⟩
  | @directory left right _ _ same =>
      cases same with
      | directory names listable _ =>
          cases closed : left.listable with
          | false =>
              refine .inl ⟨.denied, ?_, ?_⟩
              · exact Listing.list_eq_denied closed
              · exact Listing.list_eq_denied (listable.symm.trans closed)
          | true =>
              refine .inr ⟨_, _, ?_, ?_, names⟩
              · exact Listing.list_eq_ok_iff.2 ⟨closed, rfl⟩
              · exact Listing.list_eq_ok_iff.2 ⟨listable.symm.trans closed, rfl⟩

theorem Relisted.listable_iff (relisted : files.Relisted other) (path : String) :
    files.Listable path ↔ other.Listable path := by
  rcases relisted.list path with ⟨fault, left, right⟩ | ⟨names, names', left, right, -⟩
  · simp [Listable, left, right]
  · simp [Listable, left, right]

theorem Relisted.isEntry_iff (relisted : files.Relisted other) (path name : String) :
    files.IsEntry path name ↔ other.IsEntry path name := by
  rcases relisted.list path with ⟨fault, left, right⟩ | ⟨names, names', left, right, same⟩
  · simp [IsEntry, left, right]
  · simp [IsEntry, left, right, same.mem_iff]

/-- A path that ends alike leads to a directory, to a file or astray in both or in neither. -/
theorem leadsTo_iff_of_sameEnd {related : Directory → Directory → Prop} {path : String}
    (ends : SameEnd related (files.resolve path) (other.resolve path)) :
    (files.LeadsToDirectory path ↔ other.LeadsToDirectory path) ∧
      (files.LeadsToFile path ↔ other.LeadsToFile path) ∧
      (files.Broken path ↔ other.Broken path) := by
  simp only [LeadsToDirectory, LeadsToFile, Broken]
  generalize files.resolve path = result at ends ⊢
  generalize other.resolve path = result' at ends ⊢
  cases ends <;> simp

theorem Relisted.leadsTo_iff (relisted : files.Relisted other) (path : String) :
    (files.LeadsToDirectory path ↔ other.LeadsToDirectory path) ∧
      (files.LeadsToFile path ↔ other.LeadsToFile path) ∧
      (files.Broken path ↔ other.Broken path) :=
  leadsTo_iff_of_sameEnd (relisted.simulates.resolve path)

end

end FileSystem

end Settings
