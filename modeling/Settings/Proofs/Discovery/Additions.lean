import Settings.Proofs.Discovery
import Settings.Proofs.Files.Additions

/-!
Entries that the discovery of plugins does not notice.

An entry that is added under the root without being a directory is no plugin, and one that is added
to a plugin directory without the extension that is looked for is no artifact.  Discovery then
gives what it gave before, be it plugins or an error.  There are two provisos.  A link that led to
nothing must not lead to a plugin or an artifact through the new entry.  And the path to the new
entry must not be broken in a plugin directory, where it is followed before its name is looked at.
-/

namespace Settings.Plugin

open Files

/-! ### What may be added -/

section

variable (files other : FileSystem) (search : Search)

/-- A new name under the root does not lead to a directory, and a new name in a plugin directory
does not have the extension that is looked for. -/
structure Ignorable : Prop where
  root : ∀ name, ¬files.IsEntry search.root name → other.IsEntry search.root name →
    ¬other.LeadsToDirectory (join search.root name)
  plugin : ∀ id name, IsPlugin files search id → ¬files.IsEntry (join search.root id) name →
    other.IsEntry (join search.root id) name → ¬HasExtension name search.extension

/-- A new name in a plugin directory can be followed or leads to nothing. -/
def Followable : Prop :=
  ∀ id name, IsPlugin files search id → ¬files.IsEntry (join search.root id) name →
    other.IsEntry (join search.root id) name →
    ¬other.Broken (join (join search.root id) name)

/-- Where a path led to nothing there is still no root, no plugin and no artifact, nor a broken
path in a plugin directory. -/
structure StillMissing : Prop where
  root : files.LeadsNowhere search.root → other.LeadsNowhere search.root
  plugin : ∀ id, files.IsEntry search.root id → files.LeadsNowhere (join search.root id) →
    ¬other.LeadsToDirectory (join search.root id)
  artifact : ∀ id name, IsPlugin files search id → files.IsEntry (join search.root id) name →
    files.LeadsNowhere (join (join search.root id) name) →
    ¬other.Broken (join (join search.root id) name) ∧
      (HasExtension name search.extension →
        ¬other.LeadsToFile (join (join search.root id) name))

end

/-! ### Names that are no artifacts -/

variable {files other : FileSystem} {search : Search}

theorem isArtifact_eq_false {directory name : String}
    (sound : ¬files.Broken (join directory name))
    (noArtifact : HasExtension name search.extension →
      ¬files.LeadsToFile (join directory name)) :
    isArtifact files search directory name = .ok false := by
  refine isArtifact_eq_ok_iff.2 ⟨sound, ?_⟩
  simp only [Bool.false_eq_true, false_iff, not_and]
  intro leads named
  exact noArtifact named leads

/-- Names that are told alike are searched alike. -/
theorem artifactNames_congr {directory : String} {names : List String}
    (each : ∀ name ∈ names,
      isArtifact other search directory name = isArtifact files search directory name) :
    artifactNames other search directory names = artifactNames files search directory names := by
  induction names with
  | nil => rfl
  | cons name rest ih =>
      obtain ⟨first, others⟩ := List.forall_mem_cons.1 each
      rw [artifactNames, artifactNames, first, ih others]

/-- A name that is not that of an artifact may as well not be listed. -/
theorem artifactNames_insert {directory name : String}
    (ignored : isArtifact files search directory name = .ok false) (front back : List String) :
    artifactNames files search directory (front ++ name :: back) =
      artifactNames files search directory (front ++ back) := by
  induction front with
  | nil =>
      rw [List.nil_append, List.nil_append, artifactNames, ignored, ok_bind]
      cases artifactNames files search directory back with
      | ok names => rfl
      | error error => rfl
  | cons first front ih =>
      rw [List.cons_append, artifactNames, ih]
      rfl

/-! ### Discovery -/

section

variable {name : String} {node : Node} (adds : files.Adds other name node)
  (missing : StillMissing files other search)
include adds missing

theorem isArtifact_adds {id asked : String} (isPlugin : IsPlugin files search id)
    (isEntry : files.IsEntry (join search.root id) asked) :
    isArtifact other search (join search.root id) asked =
      isArtifact files search (join search.root id) asked := by
  by_cases nowhere : files.LeadsNowhere (join (join search.root id) asked)
  · obtain ⟨sound, noArtifact⟩ := missing.artifact id asked isPlugin isEntry nowhere
    rw [isArtifact_eq_false sound noArtifact,
      isArtifact_eq_false nowhere.not_broken fun _ => nowhere.not_leadsToFile]
  · rw [isArtifact, isArtifact, adds.isFile nowhere]

/-- A plugin directory is described as before. -/
theorem describe_adds (ignorable : Ignorable files other search)
    (followable : Followable files other search) {id : String}
    (isPlugin : IsPlugin files search id) :
    describe other search id = describe files search id := by
  have somewhere : ¬files.LeadsNowhere (join search.root id) := fun nowhere =>
    nowhere.not_leadsToDirectory isPlugin.2
  have alike : ∀ names, files.list (join search.root id) = .ok names →
      artifactNames other search (join search.root id) names =
        artifactNames files search (join search.root id) names := by
    intro names lists
    refine artifactNames_congr fun asked listed => ?_
    exact isArtifact_adds adds missing isPlugin ((FileSystem.isEntry_iff_mem lists).2 listed)
  rw [describe, describe]
  rcases adds.list somewhere with same | ⟨front, back, before, after, fresh⟩
  · rw [listDirectory, listDirectory, same]
    cases lists : files.list (join search.root id) with
    | error fault => rfl
    | ok names =>
        simp only [Except.mapError, ok_bind]
        rw [alike names lists]
  · have new : ¬files.IsEntry (join search.root id) name := by
      rwa [FileSystem.isEntry_iff_mem before]
    have listed : other.IsEntry (join search.root id) name := by
      rw [FileSystem.isEntry_iff_mem after]
      exact List.mem_append_right front (List.mem_cons_self ..)
    have ignored : isArtifact other search (join search.root id) name = .ok false :=
      isArtifact_eq_false (followable id name isPlugin new listed)
        fun named => absurd named (ignorable.plugin id name isPlugin new listed)
    simp only [listDirectory_eq_ok_iff.2 before, listDirectory_eq_ok_iff.2 after, ok_bind]
    rw [artifactNames_insert ignored, alike _ before]

theorem isDirectory_adds {id : String} (isEntry : files.IsEntry search.root id) :
    other.isDirectory (join search.root id) = files.isDirectory (join search.root id) := by
  rw [Bool.eq_iff_iff, FileSystem.isDirectory_iff, FileSystem.isDirectory_iff]
  by_cases nowhere : files.LeadsNowhere (join search.root id)
  · exact iff_of_false (missing.plugin id isEntry nowhere) nowhere.not_leadsToDirectory
  · exact (adds.leadsTo_iff nowhere).1.symm

/-- The root fails as before, or the same plugins are found under it in the same order. -/
theorem plugins_adds (ignorable : Ignorable files other search) :
    (∃ fault, files.list search.root = .error fault ∧ other.list search.root = .error fault) ∨
      ∃ names names', files.list search.root = .ok names ∧ other.list search.root = .ok names' ∧
        (names'.filter fun id => other.isDirectory (join search.root id)) =
          names.filter fun id => files.isDirectory (join search.root id) := by
  have alike : ∀ names : List String, (∀ id ∈ names, files.IsEntry search.root id) →
      (names.filter fun id => other.isDirectory (join search.root id)) =
        names.filter fun id => files.isDirectory (join search.root id) := fun names listed =>
    List.filter_congr fun id inside => isDirectory_adds adds missing (listed id inside)
  have relisted : other.list search.root = files.list search.root ∨
      ∃ front back, files.list search.root = .ok (front ++ back) ∧
        other.list search.root = .ok (front ++ name :: back) ∧ name ∉ front ++ back := by
    by_cases nowhere : files.LeadsNowhere search.root
    · refine .inl ?_
      rw [FileSystem.list, FileSystem.list, nowhere.eq, (missing.root nowhere).eq]
    · exact adds.list nowhere
  rcases relisted with same | ⟨front, back, before, after, fresh⟩
  · cases lists : files.list search.root with
    | error fault => exact .inl ⟨fault, rfl, same.trans lists⟩
    | ok names =>
        refine .inr ⟨names, names, rfl, same.trans lists, alike names fun id inside => ?_⟩
        exact (FileSystem.isEntry_iff_mem lists).2 inside
  · have new : ¬files.IsEntry search.root name := by
      rwa [FileSystem.isEntry_iff_mem before]
    have listed : other.IsEntry search.root name := by
      rw [FileSystem.isEntry_iff_mem after]
      exact List.mem_append_right front (List.mem_cons_self ..)
    have noPlugin : ¬other.isDirectory (join search.root name) = true := by
      rw [FileSystem.isDirectory_iff]
      exact ignorable.root name new listed
    have skipped : ((name :: back).filter fun id => other.isDirectory (join search.root id)) =
        back.filter fun id => other.isDirectory (join search.root id) :=
      List.filter_cons_of_neg noPlugin
    refine .inr ⟨_, _, before, after, ?_⟩
    rw [List.filter_append, skipped, ← List.filter_append]
    exact alike _ fun id inside => (FileSystem.isEntry_iff_mem before).2 inside

end

/-- An entry that is neither a plugin nor an artifact, and makes none, changes nothing. -/
theorem discover_adds {name : String} {node : Node} (adds : files.Adds other name node)
    (ignorable : Ignorable files other search) (followable : Followable files other search)
    (missing : StillMissing files other search) :
    discover other search = discover files search := by
  rw [discover, discover]
  rcases plugins_adds adds missing ignorable with
    ⟨fault, before, after⟩ | ⟨names, names', before, after, ids⟩
  · rw [listDirectory, listDirectory, before, after]
    rfl
  · simp only [listDirectory_eq_ok_iff.2 before, listDirectory_eq_ok_iff.2 after, ok_bind, ids]
    rw [mapM_congr fun id listed =>
      describe_adds adds missing ignorable followable ((mem_ids_iff before).1 listed)]

/-! ### A plugin with a link that leads to nothing -/

/-- A plugin directory with an artifact, a link to a missing file, and more entries behind them. -/
def withLink (more : List (String × Node)) : FileSystem :=
  ⟨⟨[("p", .directory ⟨("a.jar", .file []) :: ("b.jar", .link "x") :: more, true⟩)], true⟩, []⟩

/-- The search for packaged artifacts. -/
def jars : Search := ⟨"/", defaultExtension, []⟩

section

variable (more : List (String × Node))

theorem list_withLink_root : (withLink more).list jars.root = .ok ["p"] := by
  rw [FileSystem.list, @FileSystem.resolve_absolute _ _ ["."] (by decide) (by decide)]
  simp [FileSystem.follow, withLink, Listing.list, Listing.names]

theorem resolve_withLink_plugin :
    (withLink more).resolve (join jars.root "p") = .ok (.directory
      ⟨("a.jar", .file []) :: ("b.jar", .link "x") :: more, true⟩ [(withLink more).root]) := by
  rw [@FileSystem.resolve_absolute _ _ ["p"] (by decide) (by decide)]
  simp [FileSystem.follow, withLink, Listing.find?]

theorem list_withLink_plugin :
    (withLink more).list (join jars.root "p") =
      .ok ("a.jar" :: "b.jar" :: more.map Prod.fst) := by
  rw [FileSystem.list, resolve_withLink_plugin]
  rfl

theorem leadsToFile_withLink :
    (withLink more).LeadsToFile (join (join jars.root "p") "a.jar") := by
  refine ⟨[], ?_⟩
  rw [@FileSystem.resolve_absolute _ _ ["p", "a.jar"] (by decide) (by decide)]
  simp [FileSystem.follow, withLink, Listing.find?]

/-- The link leads where the name that it points at does. -/
theorem leadsNowhere_withLink {more : List (String × Node)} (missing : more.lookup "x" = none) :
    (withLink more).LeadsNowhere (join (join jars.root "p") "b.jar") := by
  have target : pathNames "x" = ["x"] := by decide
  rw [FileSystem.LeadsNowhere,
    @FileSystem.resolve_absolute _ _ ["p", "b.jar"] (by decide) (by decide)]
  simp [FileSystem.follow, withLink, Listing.find?, List.lookup_cons, target, isAbsolute, maxLinks,
    missing]

theorem eq_of_isPlugin_withLink {more : List (String × Node)} {id : String}
    (isPlugin : IsPlugin (withLink more) jars id) : id = "p" :=
  List.mem_singleton.1 ((FileSystem.isEntry_iff_mem (list_withLink_root more)).1 isPlugin.1)

theorem discover_withLink :
    discover (withLink more) jars =
      (describe (withLink more) jars "p").map fun plugin => [plugin] := by
  have ids : (["p"].filter fun id => (withLink more).isDirectory (join jars.root id)) = ["p"] :=
    List.filter_cons_of_pos (FileSystem.isDirectory_iff.2 ⟨_, _, resolve_withLink_plugin more⟩)
  rw [discover, listDirectory_eq_ok_iff.2 (list_withLink_root more), ok_bind]
  simp only [ids, List.mapM_cons, List.mapM_nil]
  cases describe (withLink more) jars "p" with
  | ok plugin => simp [Except.map]
  | error error => rfl

theorem discover_withLink_of_ok {more : List (String × Node)} {found : List String}
    (searches : artifactNames (withLink more) jars (join jars.root "p")
      ("a.jar" :: "b.jar" :: more.map Prod.fst) = .ok found)
    (some : found ≠ []) (sorted : found.Pairwise (· ≤ ·)) :
    discover (withLink more) jars =
      .ok [⟨"p", found.map (join (join jars.root "p")), []⟩] := by
  have describes : describe (withLink more) jars "p" =
      .ok ⟨"p", found.map (join (join jars.root "p")), []⟩ := by
    refine describe_eq_ok_iff.2 ⟨_, found, list_withLink_plugin more, searches, some, ?_⟩
    rw [List.mergeSort_of_pairwise (by simpa using sorted)]
    rfl
  rw [discover_withLink, describes]
  rfl

end

section

variable {name : String} {node : Node}

theorem adds_withLink (fresh : name ∉ ["a.jar", "b.jar"]) :
    (withLink []).Adds (withLink [(name, node)]) name node := by
  refine ⟨?_, rfl⟩
  have inside : Files.Adds name node
      ⟨[("a.jar", .file []), ("b.jar", .link "x")] ++ [], true⟩
      ⟨[("a.jar", .file []), ("b.jar", .link "x")] ++ (name, node) :: [], true⟩ := .here fresh
  exact @Files.Adds.under name node [] [] true _ _ "p" List.not_mem_nil inside

theorem eq_of_new_withLink {id asked : String} (isPlugin : IsPlugin (withLink []) jars id)
    (new : ¬(withLink []).IsEntry (join jars.root id) asked)
    (listed : (withLink [(name, node)]).IsEntry (join jars.root id) asked) :
    id = "p" ∧ asked = name := by
  obtain rfl := eq_of_isPlugin_withLink isPlugin
  rw [FileSystem.isEntry_iff_mem (list_withLink_plugin _)] at new listed
  simp_all

theorem ignorable_withLink (noArtifact : ¬HasExtension name jars.extension) :
    Ignorable (withLink []) (withLink [(name, node)]) jars where
  root asked new listed := by
    rw [FileSystem.isEntry_iff_mem (list_withLink_root _)] at new listed
    exact absurd listed new
  plugin id asked isPlugin new listed := by
    obtain ⟨-, rfl⟩ := eq_of_new_withLink isPlugin new listed
    exact noArtifact

theorem stillMissing_withLink (other : name ≠ "x") :
    StillMissing (withLink []) (withLink [(name, node)]) jars where
  root nowhere := by
    have lists := list_withLink_root []
    rw [FileSystem.list, nowhere.eq] at lists
    cases lists
  plugin id isEntry nowhere := by
    rw [FileSystem.isEntry_iff_mem (list_withLink_root _)] at isEntry
    obtain rfl := List.mem_singleton.1 isEntry
    exact absurd ⟨_, _, resolve_withLink_plugin []⟩ nowhere.not_leadsToDirectory
  artifact id asked isPlugin isEntry nowhere := by
    obtain rfl := eq_of_isPlugin_withLink isPlugin
    rw [FileSystem.isEntry_iff_mem (list_withLink_plugin _)] at isEntry
    rcases List.mem_pair.1 isEntry with rfl | rfl
    · exact absurd (leadsToFile_withLink []) nowhere.not_leadsToFile
    · have still : (withLink [(name, node)]).LeadsNowhere (join (join jars.root "p") "b.jar") :=
        leadsNowhere_withLink (by simp [List.lookup_cons, beq_eq_false_iff_ne.2 other.symm])
      exact ⟨still.not_broken, fun _ => still.not_leadsToFile⟩

end

theorem isArtifact_withLink (more : List (String × Node)) :
    isArtifact (withLink more) jars (join jars.root "p") "a.jar" = .ok true := by
  obtain ⟨content, leads⟩ := leadsToFile_withLink more
  have named : HasExtension "a.jar" jars.extension := nameExtension?_eq_some_iff.1 (by decide)
  refine isArtifact_eq_ok_iff.2 ⟨?_, ?_⟩
  · simp [FileSystem.Broken, leads]
  · simp [FileSystem.LeadsToFile, leads, named]

theorem isArtifact_withLink_missing {more : List (String × Node)}
    (missing : more.lookup "x" = none) :
    isArtifact (withLink more) jars (join jars.root "p") "b.jar" = .ok false := by
  have nowhere := leadsNowhere_withLink missing
  exact isArtifact_eq_false nowhere.not_broken fun _ => nowhere.not_leadsToFile

theorem artifactNames_withLink {more : List (String × Node)} (missing : more.lookup "x" = none)
    {others : List String}
    (searches : artifactNames (withLink more) jars (join jars.root "p") (more.map Prod.fst) =
      .ok others) :
    artifactNames (withLink more) jars (join jars.root "p")
      ("a.jar" :: "b.jar" :: more.map Prod.fst) = .ok ("a.jar" :: others) := by
  rw [artifactNames, isArtifact_withLink, ok_bind, artifactNames,
    isArtifact_withLink_missing missing, ok_bind, searches]
  rfl

/-- What discovery gives where neither the link nor an entry behind it is an artifact. -/
theorem discover_withLink_missing {more : List (String × Node)} (missing : more.lookup "x" = none)
    (searches : artifactNames (withLink more) jars (join jars.root "p") (more.map Prod.fst) =
      .ok []) :
    discover (withLink more) jars = .ok [⟨"p", ["/p/a.jar"], []⟩] := by
  rw [discover_withLink_of_ok (artifactNames_withLink missing searches) (by simp) (by simp)]
  decide

/-- A dangling link without the extension is not noticed. -/
theorem discover_adds_dangling :
    discover (withLink [("n.txt", .link "gone")]) jars = .ok [⟨"p", ["/p/a.jar"], []⟩] := by
  have nowhere : (withLink [("n.txt", .link "gone")]).LeadsNowhere
      (join (join jars.root "p") "n.txt") := by
    have target : pathNames "gone" = ["gone"] := by decide
    rw [FileSystem.LeadsNowhere,
      @FileSystem.resolve_absolute _ _ ["p", "n.txt"] (by decide) (by decide)]
    simp [FileSystem.follow, withLink, Listing.find?, List.lookup_cons, target, isAbsolute,
      maxLinks]
  have noArtifact : ¬HasExtension "n.txt" jars.extension := by
    rw [← nameExtension?_eq_some_iff]
    decide
  rw [← @discover_withLink_missing [] rfl rfl]
  refine discover_adds (adds_withLink (by decide)) (ignorable_withLink noArtifact) ?_
    (stillMissing_withLink (by decide))
  intro id asked isPlugin new listed
  obtain ⟨rfl, rfl⟩ := eq_of_new_withLink isPlugin new listed
  exact nowhere.not_broken

/-- The link is an artifact where the file that it points at is added. -/
theorem discover_withLink_completed :
    discover (withLink [("x", .file [])]) jars =
      .ok [⟨"p", ["/p/a.jar", "/p/b.jar"], []⟩] := by
  have target : pathNames "x" = ["x"] := by decide
  have completed : (withLink [("x", .file [])]).isFile (join (join jars.root "p") "b.jar") =
      .ok true := by
    rw [FileSystem.isFile, @FileSystem.resolve_absolute _ _ ["p", "b.jar"] (by decide) (by decide)]
    simp [FileSystem.follow, withLink, Listing.find?, List.lookup_cons, target, isAbsolute,
      maxLinks]
  have new : (withLink [("x", .file [])]).isFile (join (join jars.root "p") "x") = .ok true := by
    rw [FileSystem.isFile, @FileSystem.resolve_absolute _ _ ["p", "x"] (by decide) (by decide)]
    simp [FileSystem.follow, withLink, Listing.find?, List.lookup_cons]
  have searches : artifactNames (withLink [("x", .file [])]) jars (join jars.root "p")
      ["a.jar", "b.jar", "x"] = .ok ["a.jar", "b.jar"] := by
    rw [artifactNames, isArtifact_withLink, artifactNames, isArtifact, completed, artifactNames,
      isArtifact, new]
    rfl
  rw [discover_withLink_of_ok searches (by simp) (by decide)]
  decide

/-- A link through a file fails, although it does not have the extension. -/
theorem discover_withLink_broken :
    discover (withLink [("n.txt", .link "a.jar/x")]) jars =
      .error (.file "/p/n.txt" .notDirectory) := by
  have target : pathNames "a.jar/x" = ["a.jar", "x"] := by decide
  have fails : (withLink [("n.txt", .link "a.jar/x")]).isFile
      (join (join jars.root "p") "n.txt") = .error .notDirectory := by
    rw [FileSystem.isFile, @FileSystem.resolve_absolute _ _ ["p", "n.txt"] (by decide) (by decide)]
    simp [FileSystem.follow, withLink, Listing.find?, List.lookup_cons, target, isAbsolute,
      maxLinks]
  rw [discover_withLink, describe, listDirectory_eq_ok_iff.2 (list_withLink_plugin _), ok_bind,
    List.map_cons, artifactNames, isArtifact_withLink, artifactNames,
    isArtifact_withLink_missing rfl, artifactNames, isArtifact, fails]
  rfl

/-- An added file can complete a link to it, and a link that is added can fail to be followed.  So
discovery can notice entries that are neither plugins nor artifacts. -/
theorem exists_noticed :
    ((withLink []).Adds (withLink [("x", .file [])]) "x" (.file []) ∧
      Ignorable (withLink []) (withLink [("x", .file [])]) jars ∧
      discover (withLink []) jars = .ok [⟨"p", ["/p/a.jar"], []⟩] ∧
      discover (withLink [("x", .file [])]) jars =
        .ok [⟨"p", ["/p/a.jar", "/p/b.jar"], []⟩]) ∧
    (withLink []).Adds (withLink [("n.txt", .link "a.jar/x")]) "n.txt" (.link "a.jar/x") ∧
      Ignorable (withLink []) (withLink [("n.txt", .link "a.jar/x")]) jars ∧
      discover (withLink [("n.txt", .link "a.jar/x")]) jars =
        .error (.file "/p/n.txt" .notDirectory) := by
  have noArtifact : ∀ name ∈ ["x", "n.txt"], ¬HasExtension name jars.extension := by
    simp only [← nameExtension?_eq_some_iff]
    decide
  refine ⟨⟨adds_withLink (by decide), ignorable_withLink (noArtifact _ (by simp)),
    @discover_withLink_missing [] rfl rfl, discover_withLink_completed⟩,
    adds_withLink (by decide), ignorable_withLink (noArtifact _ (by simp)),
    discover_withLink_broken⟩

end Settings.Plugin
