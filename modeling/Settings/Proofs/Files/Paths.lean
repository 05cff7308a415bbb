import Mathlib.Data.List.Forall2
import Settings.Files.FileSystem

/-!
Paths followed in two file systems at once.

Names are looked up one after the other.  So if one file system has under every name what the
other one has there, if that has anything, then a path leads to nothing in the other one or to
places that are alike (`FileSystem.Within.resolve`), and if each has what the other one has, then
every path does (`FileSystem.Simulates.resolve`).
-/

namespace Settings

namespace Files

/-- Two directories answer a look-up alike: with nothing, with equal files or links, with sockets,
or with directories that are related again. -/
inductive SameAnswer (related : Directory → Directory → Prop) :
    Option Node → Option Node → Prop where
  | nothing : SameAnswer related none none
  | file (content : List UInt8) : SameAnswer related (some (.file content)) (some (.file content))
  | link (target : String) : SameAnswer related (some (.link target)) (some (.link target))
  | socket : SameAnswer related (some .socket) (some .socket)
  | directory {left right : Directory} (holds : related left right) :
      SameAnswer related (some (.directory left)) (some (.directory right))

/-- Two paths end alike: in the same fault, in equal files, in sockets or in related directories. -/
inductive SameEnd (related : Directory → Directory → Prop) :
    Except Fault Place → Except Fault Place → Prop where
  | fault (fault : Fault) : SameEnd related (.error fault) (.error fault)
  | file (content : List UInt8) : SameEnd related (.ok (.file content)) (.ok (.file content))
  | socket : SameEnd related (.ok .socket) (.ok .socket)
  | directory {left right : Directory} (leftAbove rightAbove : List Directory)
      (holds : related left right) :
      SameEnd related (.ok (.directory left leftAbove)) (.ok (.directory right rightAbove))

section

variable {related : Directory → Directory → Prop}

theorem SameAnswer.swap {left right : Option Node} (same : SameAnswer related left right) :
    SameAnswer (fun right left => related left right) right left := by
  cases same with
  | nothing => exact .nothing
  | file content => exact .file content
  | link target => exact .link target
  | socket => exact .socket
  | directory holds => exact .directory holds

theorem SameEnd.swap {left right : Except Fault Place} (same : SameEnd related left right) :
    SameEnd (fun right left => related left right) right left := by
  cases same with
  | fault fault => exact .fault fault
  | file content => exact .file content
  | socket => exact .socket
  | directory leftAbove rightAbove holds => exact .directory rightAbove leftAbove holds

end

end Files

namespace FileSystem

open Files

/-- Related directories answer a look-up alike, or the first one with nothing, and the roots are
related. -/
structure Within (files other : FileSystem) (related : Directory → Directory → Prop) : Prop where
  root : related files.root other.root
  working : files.working = other.working
  entries : ∀ left right, related left right → ∀ name,
    left.find? name = none ∨ SameAnswer related (left.find? name) (right.find? name)

/-- Related directories answer every look-up alike, and the roots are related. -/
structure Simulates (files other : FileSystem) (related : Directory → Directory → Prop) : Prop where
  root : related files.root other.root
  working : files.working = other.working
  entries : ∀ left right, related left right →
    ∀ name, SameAnswer related (left.find? name) (right.find? name)

variable {files other : FileSystem} {related : Directory → Directory → Prop}

/-- A path that begins with a slash is followed from the root. -/
theorem resolve_absolute {path : String} {names : List String} (absolute : isAbsolute path = true)
    (split : pathNames path = names) :
    files.resolve path = files.follow maxLinks files.root [] names := by
  have some : path.isEmpty = false := by
    rw [Bool.eq_false_iff]
    intro empty
    rw [String.isEmpty_iff.1 empty] at absolute
    cases absolute
  simp [resolve, namesFromRoot, absolute, split, some]

theorem Within.follow (within : files.Within other related) {left right : Directory}
    {leftAbove rightAbove : List Directory} (links : Nat) (names : List String)
    (holds : related left right) (above : List.Forall₂ related leftAbove rightAbove) :
    files.follow links left leftAbove names = .error .notFound ∨
      SameEnd related (files.follow links left leftAbove names)
        (other.follow links right rightAbove names) := by
  -- The recursion is that of `follow`: a link costs one of the links left, any other name is gone.
  match names with
  | [] =>
      rw [FileSystem.follow, FileSystem.follow]
      exact .inr (.directory _ _ holds)
  | name :: rest =>
      rw [FileSystem.follow.eq_def files, FileSystem.follow.eq_def other]
      simp only
      split
      · exact within.follow links rest holds above
      · split
        · cases above with
          | nil => exact within.follow links rest holds .nil
          | cons parent others => exact within.follow links rest parent others
        · rcases within.entries left right holds name with nothing | answer
          · rw [nothing]
            exact .inl rfl
          generalize left.find? name = inLeft at answer ⊢
          generalize right.find? name = inRight at answer ⊢
          cases answer with
          | nothing => exact .inl rfl
          | file content =>
              refine .inr ?_
              simp only
              split
              · exact .file content
              · exact .fault _
          | socket =>
              refine .inr ?_
              simp only
              split
              · exact .socket
              · exact .fault _
          | directory inner => exact within.follow links rest inner (.cons holds above)
          | link target =>
              cases links with
              | zero => exact .inr (.fault _)
              | succ links =>
                  simp only
                  split
                  · exact within.follow links (pathNames target ++ rest) within.root .nil
                  · exact within.follow links (pathNames target ++ rest) holds above
termination_by (links, names.length)

/-- Every path leads to nothing in the first file system, or ends alike. -/
theorem Within.resolve (within : files.Within other related) (path : String) :
    files.resolve path = .error .notFound ∨
      SameEnd related (files.resolve path) (other.resolve path) := by
  have names : files.namesFromRoot path = other.namesFromRoot path := by
    rw [namesFromRoot, namesFromRoot, within.working]
  rw [FileSystem.resolve, FileSystem.resolve, names]
  split
  · exact .inl rfl
  · exact within.follow maxLinks _ within.root .nil

theorem Simulates.within (simulates : files.Simulates other related) :
    files.Within other related where
  root := simulates.root
  working := simulates.working
  entries left right holds name := .inr (simulates.entries left right holds name)

theorem Simulates.swap (simulates : files.Simulates other related) :
    other.Simulates files fun right left => related left right where
  root := simulates.root
  working := simulates.working.symm
  entries right left holds name := (simulates.entries left right holds name).swap

/-- Every path ends alike. -/
theorem Simulates.resolve (simulates : files.Simulates other related) (path : String) :
    SameEnd related (files.resolve path) (other.resolve path) := by
  rcases simulates.within.resolve path with nothing | ends
  · rcases simulates.swap.within.resolve path with nothing' | ends
    · rw [nothing, nothing']
      exact .fault .notFound
    · exact ends.swap
  · exact ends

end FileSystem

end Settings
