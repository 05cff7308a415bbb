import Settings.Plugin
import Settings.Proofs.Files.Trees
import Settings.Proofs.Splitting
import Settings.Proofs.Traversals

/-!
What the discovery of plugins finds.

Discovery succeeds exactly if every plugin directory can be read and holds an artifact, and then
gives one plugin for each of them, in order.  Since all of this is said of paths and of names, and
not of listings, relisting the directories changes nothing.
-/

namespace Settings

namespace Files

/-- The extension is what stands behind the last dot of the name, and the dot is not its first
character. -/
def HasExtension (name extension : String) : Prop :=
  ∃ stem : List Char, stem ≠ [] ∧ name.toList = stem ++ '.' :: extension.toList ∧
    '.' ∉ extension.toList

theorem nameExtension?_of_reverse {name : String} {behind front : List Char}
    (whole : name.toList.reverse = behind ++ '.' :: front) (free : '.' ∉ behind) :
    nameExtension? name = if front = [] then none else some (String.ofList behind.reverse) := by
  have suffix := Text.takeWhile_append_atDelimiter free (Text.atDelimiter_cons '.' front)
  simp only [nameExtension?, whole, suffix, List.drop_left]
  cases front <;> rfl

theorem nameExtension?_of_notMem {name : String} (free : '.' ∉ name.toList) :
    nameExtension? name = none := by
  have reversed : '.' ∉ name.toList.reverse := by simpa using free
  have suffix := Text.takeWhile_append_atDelimiter reversed (Text.atDelimiter_nil '.')
  rw [List.append_nil] at suffix
  simp only [nameExtension?, suffix, List.drop_length]

theorem nameExtension?_eq_some_iff {name extension : String} :
    nameExtension? name = some extension ↔ HasExtension name extension := by
  constructor
  · intro found
    by_cases dotted : '.' ∈ name.toList
    · obtain ⟨behind, front, whole, free⟩ :=
        List.eq_append_cons_of_mem (List.mem_reverse.2 dotted)
      rw [nameExtension?_of_reverse whole free] at found
      split at found
      · cases found
      · next more =>
          cases found
          refine ⟨front.reverse, by simpa using more, ?_, by simpa using free⟩
          rw [← List.reverse_reverse name.toList, whole]
          simp
    · rw [nameExtension?_of_notMem dotted] at found
      cases found
  · rintro ⟨stem, more, whole, free⟩
    have reversed : name.toList.reverse = extension.toList.reverse ++ '.' :: stem.reverse := by
      simp [whole]
    rw [nameExtension?_of_reverse reversed (by simpa using free), if_neg (by simpa using more)]
    simp

end Files

namespace Plugin

open Files

/-! ### What is to be found -/

section

variable (files : FileSystem) (search : Search)

/-- The root lists the name, which leads to a directory in it. -/
def IsPlugin (id : String) : Prop :=
  files.IsEntry search.root id ∧ files.LeadsToDirectory (join search.root id)

/-- The directory of the plugin lists the name, which has the extension that is looked for and
leads to a file in it. -/
def IsArtifact (id name : String) : Prop :=
  files.IsEntry (join search.root id) name ∧
    files.LeadsToFile (join (join search.root id) name) ∧ HasExtension name search.extension

/-- The directory of the plugin can be listed, every name in it can be followed or leads to
nothing, and one of them is that of an artifact. -/
structure Readable (id : String) : Prop where
  listable : files.Listable (join search.root id)
  sound : ∀ name, files.IsEntry (join search.root id) name →
    ¬files.Broken (join (join search.root id) name)
  artifact : ∃ name, IsArtifact files search id name

/-- The plugin has the paths of its artifacts in the order of their names, and the patterns that
were asked for. -/
structure Describes (plugin : Plugin) : Prop where
  artifacts : ∃ names : List String, names.Pairwise (· < ·) ∧
    (∀ name, name ∈ names ↔ IsArtifact files search plugin.id name) ∧
    plugin.artifacts = names.map (join (join search.root plugin.id))
  excludePatterns : plugin.excludePatterns = search.excludePatterns

end

/-! ### Artifacts of a plugin -/

variable {files other : FileSystem} {search : Search}

/-- A name can be asked about unless the path to it is broken. -/
theorem isArtifact_eq_ok_iff {directory name : String} {found : Bool} :
    isArtifact files search directory name = .ok found ↔
      ¬files.Broken (join directory name) ∧
        (found = true ↔
          files.LeadsToFile (join directory name) ∧ HasExtension name search.extension) := by
  rw [isArtifact, FileSystem.isFile, FileSystem.Broken, FileSystem.LeadsToFile,
    ← nameExtension?_eq_some_iff]
  cases files.resolve (join directory name) with
  | ok place =>
      cases place with
      | file content =>
          change Except.ok (true && _) = _ ↔ _
          cases found <;> simp
      | directory | socket =>
          change Except.ok (false && _) = _ ↔ _
          cases found <;> simp
  | error fault =>
      cases fault with
      | notFound =>
          change Except.ok (false && _) = _ ↔ _
          cases found <;> simp
      | _ => simp [Except.mapError]

theorem exists_isArtifact_iff {directory name : String} :
    (∃ found, isArtifact files search directory name = .ok found) ↔
      ¬files.Broken (join directory name) := by
  constructor
  · rintro ⟨found, asked⟩
    exact (isArtifact_eq_ok_iff.1 asked).1
  · intro sound
    by_cases artifact :
        files.LeadsToFile (join directory name) ∧ HasExtension name search.extension
    · exact ⟨true, isArtifact_eq_ok_iff.2 ⟨sound, by simp [artifact]⟩⟩
    · exact ⟨false, isArtifact_eq_ok_iff.2 ⟨sound, by simp [artifact]⟩⟩

/-- A directory can be searched unless the path to one of its names is broken. -/
theorem exists_artifactNames_iff {directory : String} {names : List String} :
    (∃ found, artifactNames files search directory names = .ok found) ↔
      ∀ name ∈ names, ¬files.Broken (join directory name) := by
  induction names with
  | nil => simp [artifactNames]
  | cons name rest ih =>
      rw [List.forall_mem_cons, ← ih, ← exists_isArtifact_iff]
      constructor
      · rintro ⟨found, reads⟩
        obtain ⟨isOne, asked, reads⟩ := exists_of_bind_eq_ok reads
        obtain ⟨others, behind, -⟩ := exists_of_bind_eq_ok reads
        exact ⟨⟨isOne, asked⟩, ⟨others, behind⟩⟩
      · rintro ⟨⟨isOne, asked⟩, ⟨others, behind⟩⟩
        rw [artifactNames, asked, ok_bind, behind, ok_bind]
        exact ⟨_, rfl⟩

/-- The artifacts are found in the order in which they are listed. -/
theorem artifactNames_eq_ok {directory : String} {names found : List String}
    (reads : artifactNames files search directory names = .ok found) :
    found.Sublist names ∧ ∀ name, name ∈ found ↔ name ∈ names ∧
      files.LeadsToFile (join directory name) ∧ HasExtension name search.extension := by
  induction names generalizing found with
  | nil =>
      cases reads
      simp
  | cons name rest ih =>
      obtain ⟨isOne, asked, reads⟩ := exists_of_bind_eq_ok reads
      obtain ⟨others, behind, reads⟩ := exists_of_bind_eq_ok reads
      obtain ⟨sublist, listed⟩ := ih behind
      have artifact := (isArtifact_eq_ok_iff.1 asked).2
      cases reads
      cases isOne with
      | true =>
          refine ⟨sublist.cons_cons name, fun other => ?_⟩
          by_cases same : other = name
          · subst same
            simp [artifact.1 rfl]
          · simp [same, listed]
      | false =>
          refine ⟨sublist.cons name, fun other => ?_⟩
          by_cases same : other = name
          · subst same
            have none : ¬(files.LeadsToFile (join directory other) ∧
                HasExtension other search.extension) := fun holds => by simpa using artifact.2 holds
            simp [listed, none]
          · simp [same, listed]

/-! ### One plugin -/

theorem listDirectory_eq_ok_iff {path : String} {names : List String} :
    listDirectory files path = .ok names ↔ files.list path = .ok names := by
  rw [listDirectory]
  cases files.list path <;> simp [Except.mapError]

/-- Sorting by keys that are all different puts the keys in strict order. -/
theorem pairwise_lt_mergeSort {α : Type} (key : α → String) {items : List α}
    (distinct : (items.map key).Nodup) :
    (items.mergeSort fun left right => decide (key left ≤ key right)).Pairwise
      fun left right => key left < key right := by
  have sorted := @List.pairwise_mergeSort α (fun left right => decide (key left ≤ key right))
    (fun a b c first second =>
      decide_eq_true (String.le_trans (of_decide_eq_true first) (of_decide_eq_true second)))
    (fun a b => by simpa using String.le_total (key a) (key b)) items
  have different : ((items.mergeSort fun left right => decide (key left ≤ key right)).map
      key).Nodup := (List.mergeSort_perm items _).map key |>.nodup_iff.2 distinct
  refine (sorted.and (List.pairwise_map.1 different)).imp ?_
  rintro left right ⟨le, ne⟩
  apply Classical.byContradiction
  intro notLt
  exact ne (String.le_antisymm (of_decide_eq_true le) (String.not_lt.1 notLt))

/-- Items in the strict order of their keys are determined by which items they are. -/
theorem eq_of_pairwise_lt {α : Type} (key : α → String) {items others : List α}
    (sorted : items.Pairwise fun left right => key left < key right)
    (sorted' : others.Pairwise fun left right => key left < key right)
    (same : ∀ item, item ∈ items ↔ item ∈ others) : items = others := by
  have distinct : ∀ {items : List α}, items.Pairwise (fun left right => key left < key right) →
      items.Nodup := by
    intro items sorted
    refine sorted.imp ?_
    rintro left _ before rfl
    exact String.lt_irrefl _ before
  have perm := (List.perm_ext_iff_of_nodup (distinct sorted) (distinct sorted')).2 same
  refine perm.eq_of_pairwise ?_ sorted sorted'
  intro left right _ _ before after
  exact absurd (String.lt_trans before after) (String.lt_irrefl _)

/-- What is read in describing a plugin. -/
theorem describe_eq_ok_iff {id : String} {plugin : Plugin} :
    describe files search id = .ok plugin ↔
      ∃ names found, files.list (join search.root id) = .ok names ∧
        artifactNames files search (join search.root id) names = .ok found ∧ found ≠ [] ∧
        plugin = ⟨id, (found.mergeSort fun left right => decide (left ≤ right)).map
          (join (join search.root id)), search.excludePatterns⟩ := by
  rw [describe]
  constructor
  · intro describes
    obtain ⟨names, lists, describes⟩ := exists_of_bind_eq_ok describes
    obtain ⟨found, searches, describes⟩ := exists_of_bind_eq_ok describes
    refine ⟨names, found, listDirectory_eq_ok_iff.1 lists, searches, ?_⟩
    cases found with
    | nil => cases describes
    | cons name others =>
        cases describes
        exact ⟨by simp, rfl⟩
  · rintro ⟨names, found, lists, searches, some, rfl⟩
    rw [listDirectory_eq_ok_iff.2 lists, ok_bind, searches, ok_bind]
    cases found with
    | nil => exact absurd rfl some
    | cons name others => rfl

/-- A plugin is described if its directory can be read. -/
theorem exists_describe_iff {id : String} :
    (∃ plugin, describe files search id = .ok plugin) ↔ Readable files search id := by
  simp only [describe_eq_ok_iff]
  constructor
  · rintro ⟨_, names, found, lists, searches, some, rfl⟩
    have sound := exists_artifactNames_iff.1 ⟨found, searches⟩
    obtain ⟨name, inside⟩ := List.exists_mem_of_ne_nil found some
    obtain ⟨listed, artifact⟩ := ((artifactNames_eq_ok searches).2 name).1 inside
    refine ⟨⟨names, lists⟩, ?_, ⟨name, (FileSystem.isEntry_iff_mem lists).2 listed, artifact⟩⟩
    intro other isEntry
    exact sound other ((FileSystem.isEntry_iff_mem lists).1 isEntry)
  · rintro ⟨⟨names, lists⟩, sound, ⟨name, isEntry, artifact⟩⟩
    obtain ⟨found, searches⟩ := exists_artifactNames_iff.2 fun name listed =>
      sound name ((FileSystem.isEntry_iff_mem lists).2 listed)
    have inside := ((artifactNames_eq_ok searches).2 name).2
      ⟨(FileSystem.isEntry_iff_mem lists).1 isEntry, artifact⟩
    exact ⟨_, names, found, lists, searches, List.ne_nil_of_mem inside, rfl⟩

theorem describe_eq_ok (wellFormed : files.WellFormed) {id : String} {plugin : Plugin}
    (describes : describe files search id = .ok plugin) :
    plugin.id = id ∧ Describes files search plugin := by
  obtain ⟨names, found, lists, searches, -, rfl⟩ := describe_eq_ok_iff.1 describes
  obtain ⟨sublist, listed⟩ := artifactNames_eq_ok searches
  have distinct : found.Nodup := sublist.nodup (FileSystem.nodup_of_list wellFormed lists)
  refine ⟨rfl, ⟨_, pairwise_lt_mergeSort (fun name => name) (by simpa using distinct), ?_, rfl⟩,
    rfl⟩
  intro name
  rw [List.mem_mergeSort, listed, IsArtifact, FileSystem.isEntry_iff_mem lists]

/-- A directory has one description as a plugin. -/
theorem Describes.unique {plugin plugin' : Plugin} (describes : Describes files search plugin)
    (describes' : Describes files search plugin') (same : plugin.id = plugin'.id) :
    plugin = plugin' := by
  obtain ⟨id, artifacts, patterns⟩ := plugin
  obtain ⟨id', artifacts', patterns'⟩ := plugin'
  cases same
  obtain ⟨⟨names, sorted, listed, paths⟩, copied⟩ := describes
  obtain ⟨⟨names', sorted', listed', paths'⟩, copied'⟩ := describes'
  have equal : names = names' := eq_of_pairwise_lt (fun name => name) sorted sorted' fun name => by
    rw [listed, listed']
  subst equal
  rw [Plugin.mk.injEq]
  exact ⟨rfl, paths.trans paths'.symm, copied.trans copied'.symm⟩

/-! ### All plugins -/

/-- The plugins are in the order of their names, and each describes its directory. -/
structure Lists (files : FileSystem) (search : Search) (plugins : List Plugin) : Prop where
  sorted : plugins.Pairwise fun left right => left.id < right.id
  ids : ∀ id, (∃ plugin ∈ plugins, plugin.id = id) ↔ IsPlugin files search id
  each : ∀ plugin ∈ plugins, Describes files search plugin

/-- What is read in discovering plugins. -/
theorem discover_eq_ok_iff {plugins : List Plugin} :
    discover files search = .ok plugins ↔
      ∃ names found, files.list search.root = .ok names ∧
        List.Forall₂ (fun id plugin => describe files search id = .ok plugin)
          (names.filter fun id => files.isDirectory (join search.root id)) found ∧
        plugins = found.mergeSort fun left right => decide (left.id ≤ right.id) := by
  rw [discover]
  constructor
  · intro discovers
    obtain ⟨names, lists, discovers⟩ := exists_of_bind_eq_ok discovers
    obtain ⟨found, describes, discovers⟩ := exists_of_bind_eq_ok discovers
    cases discovers
    exact ⟨names, found, listDirectory_eq_ok_iff.1 lists, mapM_eq_ok_iff.1 describes, rfl⟩
  · rintro ⟨names, found, lists, describes, rfl⟩
    rw [listDirectory_eq_ok_iff.2 lists, ok_bind]
    simp only [mapM_eq_ok_iff.2 describes, ok_bind]
    rfl

theorem mem_ids_iff {names : List String} (lists : files.list search.root = .ok names)
    {id : String} :
    (id ∈ names.filter fun id => files.isDirectory (join search.root id)) ↔
      IsPlugin files search id := by
  rw [List.mem_filter, FileSystem.isDirectory_iff, IsPlugin, FileSystem.isEntry_iff_mem lists]

/-- Discovery succeeds if the root can be listed and every plugin directory can be read. -/
theorem exists_discover_iff :
    (∃ plugins, discover files search = .ok plugins) ↔
      files.Listable search.root ∧ ∀ id, IsPlugin files search id → Readable files search id := by
  simp only [discover_eq_ok_iff, ← exists_describe_iff]
  constructor
  · rintro ⟨_, names, found, lists, describes, rfl⟩
    refine ⟨⟨names, lists⟩, ?_⟩
    intro id isPlugin
    obtain ⟨plugin, -, described⟩ :=
      exists_of_forall₂_left describes ((mem_ids_iff lists).2 isPlugin)
    exact ⟨plugin, described⟩
  · rintro ⟨⟨names, lists⟩, readable⟩
    obtain ⟨found, describes⟩ := exists_mapM_eq_ok_iff.2 fun id listed =>
      readable id ((mem_ids_iff lists).1 listed)
    exact ⟨_, names, found, lists, mapM_eq_ok_iff.1 describes, rfl⟩

/-- A plugin directory that must not be listed makes discovery fail. -/
theorem not_exists_discover_of_closed {id : String} {directory : Directory}
    {above : List Directory} (isPlugin : IsPlugin files search id)
    (leads : files.resolve (join search.root id) = .ok (.directory directory above))
    (closed : directory.listable = false) :
    ¬∃ plugins, discover files search = .ok plugins := by
  rw [exists_discover_iff]
  rintro ⟨-, readable⟩
  obtain ⟨names, lists⟩ := (readable id isPlugin).listable
  have denied : files.list (join search.root id) = .error .denied := by
    rw [FileSystem.list, leads]
    exact Listing.list_eq_denied closed
  rw [denied] at lists
  cases lists

/-- What is discovered in a well-formed tree are its plugins, in order. -/
theorem lists_of_discover (wellFormed : files.WellFormed) {plugins : List Plugin}
    (discovers : discover files search = .ok plugins) : Lists files search plugins := by
  obtain ⟨names, found, lists, describes, rfl⟩ := discover_eq_ok_iff.1 discovers
  have ids : found.map Plugin.id =
      names.filter fun id => files.isDirectory (join search.root id) := by
    rw [← List.map_id (names.filter _)]
    exact map_eq_map_of_forall₂ (describes.imp fun _ _ described =>
      (describe_eq_ok wellFormed described).1)
  have distinct : (found.map Plugin.id).Nodup := by
    rw [ids]
    exact (FileSystem.nodup_of_list wellFormed lists).filter _
  refine ⟨pairwise_lt_mergeSort Plugin.id distinct, ?_, ?_⟩
  · intro id
    rw [← mem_ids_iff lists, ← ids, List.mem_map]
    simp only [List.mem_mergeSort]
  · intro plugin inside
    obtain ⟨id, -, described⟩ := exists_of_forall₂_right describes (List.mem_mergeSort.1 inside)
    exact (describe_eq_ok wellFormed described).2

/-- The plugins that are to be discovered are determined. -/
theorem Lists.unique {plugins plugins' : List Plugin} (lists : Lists files search plugins)
    (lists' : Lists files search plugins') : plugins = plugins' := by
  have inside : ∀ {left right : List Plugin}, Lists files search left → Lists files search right →
      ∀ plugin ∈ left, plugin ∈ right := by
    intro left right lists lists' plugin listed
    obtain ⟨other, listed', same⟩ := (lists'.ids _).2 ((lists.ids _).1 ⟨plugin, listed, rfl⟩)
    rw [(lists.each plugin listed).unique (lists'.each other listed') same.symm]
    exact listed'
  exact eq_of_pairwise_lt Plugin.id lists.sorted lists'.sorted fun plugin =>
    ⟨inside lists lists' plugin, inside lists' lists plugin⟩

/-! ### Relisted trees -/

section

variable (relisted : files.Relisted other)
include relisted

theorem isPlugin_relisted (id : String) : IsPlugin files search id ↔ IsPlugin other search id := by
  rw [IsPlugin, IsPlugin, relisted.isEntry_iff, (relisted.leadsTo_iff _).1]

theorem isArtifact_relisted (id name : String) :
    IsArtifact files search id name ↔ IsArtifact other search id name := by
  rw [IsArtifact, IsArtifact, relisted.isEntry_iff, (relisted.leadsTo_iff _).2.1]

theorem readable_relisted {id : String} (readable : Readable files search id) :
    Readable other search id := by
  obtain ⟨listable, sound, name, artifact⟩ := readable
  refine ⟨(relisted.listable_iff _).1 listable, ?_, ⟨name, (isArtifact_relisted relisted _ _).1
    artifact⟩⟩
  intro name isEntry broken
  exact sound name ((relisted.isEntry_iff _ _).2 isEntry) ((relisted.leadsTo_iff _).2.2.2 broken)

theorem describes_relisted {plugin : Plugin} (describes : Describes files search plugin) :
    Describes other search plugin := by
  obtain ⟨⟨names, sorted, listed, paths⟩, copied⟩ := describes
  refine ⟨⟨names, sorted, fun name => ?_, paths⟩, copied⟩
  rw [listed, isArtifact_relisted relisted]

theorem lists_relisted {plugins : List Plugin} (lists : Lists files search plugins) :
    Lists other search plugins := by
  refine ⟨lists.sorted, fun id => ?_, fun plugin listed => ?_⟩
  · rw [lists.ids, isPlugin_relisted relisted]
  · exact describes_relisted relisted (lists.each plugin listed)

/-- What is discovered in a well-formed tree is discovered however its directories are listed. -/
theorem discover_relisted (wellFormed : files.WellFormed) {plugins : List Plugin}
    (discovers : discover files search = .ok plugins) : discover other search = .ok plugins := by
  have lists := lists_relisted relisted (lists_of_discover wellFormed discovers)
  obtain ⟨listable, readable⟩ := exists_discover_iff.1 ⟨plugins, discovers⟩
  obtain ⟨found, there⟩ : ∃ found, discover other search = .ok found := by
    refine exists_discover_iff.2 ⟨(relisted.listable_iff _).1 listable, fun id isPlugin => ?_⟩
    exact readable_relisted relisted (readable id ((isPlugin_relisted relisted id).2 isPlugin))
  rw [there, lists.unique (lists_of_discover (relisted.wellFormed wellFormed) there)]

end

/-- Discovery succeeds exactly if the root can be listed and every plugin directory can be read
and holds an artifact.  It gives one plugin for each of these directories, in the order of their
names, with its artifacts in the order of theirs, however the directories are listed. -/
theorem discover_exact (wellFormed : files.WellFormed) (search : Search) :
    ((∃ plugins, discover files search = .ok plugins) ↔
      files.Listable search.root ∧ ∀ id, IsPlugin files search id → Readable files search id) ∧
    (∀ plugins, discover files search = .ok plugins →
      plugins.Pairwise (fun left right => left.id < right.id) ∧
      (∀ id, (∃ plugin ∈ plugins, plugin.id = id) ↔ IsPlugin files search id) ∧
      ∀ plugin ∈ plugins, plugin.excludePatterns = search.excludePatterns ∧
        ∃ names : List String, names.Pairwise (· < ·) ∧
          (∀ name, name ∈ names ↔ IsArtifact files search plugin.id name) ∧
          plugin.artifacts = names.map (join (join search.root plugin.id))) ∧
    (∀ other, files.Relisted other → ∀ plugins,
      discover files search = .ok plugins ↔ discover other search = .ok plugins) := by
  refine ⟨exists_discover_iff, ?_, ?_⟩
  · intro plugins discovers
    have lists := lists_of_discover wellFormed discovers
    refine ⟨lists.sorted, lists.ids, fun plugin listed => ?_⟩
    have describes := lists.each plugin listed
    exact ⟨describes.excludePatterns, describes.artifacts⟩
  · intro other relisted plugins
    constructor
    · exact discover_relisted relisted wellFormed
    · exact discover_relisted relisted.symm (relisted.wellFormed wellFormed)

/-- A directory with an artifact, behind a link to it. -/
def linkFirst : FileSystem :=
  ⟨⟨[("b", .link "a"), ("a", .directory ⟨[("x.jar", .file [])], true⟩)], true⟩, []⟩

/-- The same directory and the link to it behind it. -/
def linkLast : FileSystem :=
  ⟨⟨[("a", .directory ⟨[("x.jar", .file [])], true⟩), ("b", .link "a")], true⟩, []⟩

/-- A directory and a link to it, listed in either order, are two plugins. -/
theorem discover_exact_linked :
    ∃ plugins, discover linkFirst ⟨"/", "jar", []⟩ = .ok plugins ∧
      discover linkLast ⟨"/", "jar", []⟩ = .ok plugins ∧
      (∃ plugin ∈ plugins, plugin.id = "a") ∧ ∃ plugin ∈ plugins, plugin.id = "b" := by
  have wellFormed : linkFirst.WellFormed := by
    refine .directory (by decide) fun name node listed => ?_
    simp only [linkFirst, List.mem_cons, Prod.mk.injEq, List.not_mem_nil, or_false] at listed
    rcases listed with ⟨rfl, rfl⟩ | ⟨rfl, rfl⟩
    · exact .link "a"
    · refine .directory (by decide) fun name node listed => ?_
      cases List.mem_singleton.1 listed
      exact .file []
  have relisted : linkFirst.Relisted linkLast :=
    ⟨Files.WellFormed.sameTree_of_perm wellFormed (.swap _ _ _) rfl, rfl⟩
  have target : pathNames "a" = ["a"] := by decide
  have root : linkFirst.list "/" = .ok ["b", "a"] := by
    have names : linkFirst.namesFromRoot "/" = ["."] := by decide
    rw [FileSystem.list, FileSystem.resolve, names]
    simp [FileSystem.follow, linkFirst, Listing.list, Listing.names]
  have inA : linkFirst.resolve "/a" =
      .ok (.directory ⟨[("x.jar", .file [])], true⟩ [linkFirst.root]) := by
    have names : linkFirst.namesFromRoot "/a" = ["a"] := by decide
    rw [FileSystem.resolve, names]
    simp [FileSystem.follow, linkFirst, Listing.find?, List.lookup_cons]
  have inB : linkFirst.resolve "/b" =
      .ok (.directory ⟨[("x.jar", .file [])], true⟩ [linkFirst.root]) := by
    have names : linkFirst.namesFromRoot "/b" = ["b"] := by decide
    rw [FileSystem.resolve, names]
    simp [FileSystem.follow, linkFirst, Listing.find?, List.lookup_cons, target, isAbsolute,
      maxLinks]
  have behindA : linkFirst.resolve "/a/x.jar" = .ok (.file []) := by
    have names : linkFirst.namesFromRoot "/a/x.jar" = ["a", "x.jar"] := by decide
    rw [FileSystem.resolve, names]
    simp [FileSystem.follow, linkFirst, Listing.find?, List.lookup_cons]
  have behindB : linkFirst.resolve "/b/x.jar" = .ok (.file []) := by
    have names : linkFirst.namesFromRoot "/b/x.jar" = ["b", "x.jar"] := by decide
    rw [FileSystem.resolve, names]
    simp [FileSystem.follow, linkFirst, Listing.find?, List.lookup_cons, target, isAbsolute,
      maxLinks]
  have readable : ∀ id above,
      linkFirst.resolve (join "/" id) = .ok (.directory ⟨[("x.jar", .file [])], true⟩ above) →
      linkFirst.resolve (join (join "/" id) "x.jar") = .ok (.file []) →
      Readable linkFirst ⟨"/", "jar", []⟩ id := by
    intro id above inside behind
    have lists : linkFirst.list (join "/" id) = .ok ["x.jar"] := by
      rw [FileSystem.list, inside]
      rfl
    have extension : HasExtension "x.jar" "jar" := ⟨['x'], by simp, by decide, by decide⟩
    refine ⟨⟨_, lists⟩, fun name isEntry => ?_, "x.jar", ⟨_, lists, by simp⟩, ⟨_, behind⟩,
      extension⟩
    cases List.mem_singleton.1 ((FileSystem.isEntry_iff_mem lists).1 isEntry)
    rintro ⟨fault, fails, -⟩
    rw [behind] at fails
    cases fails
  obtain ⟨succeeds, exactly, alike⟩ := discover_exact wellFormed ⟨"/", "jar", []⟩
  have every : ∀ id, IsPlugin linkFirst ⟨"/", "jar", []⟩ id →
      Readable linkFirst ⟨"/", "jar", []⟩ id := by
    rintro id ⟨isEntry, -⟩
    have listed := (FileSystem.isEntry_iff_mem root).1 isEntry
    simp only [List.mem_cons, List.not_mem_nil, or_false] at listed
    rcases listed with rfl | rfl
    · exact readable "b" _ inB behindB
    · exact readable "a" _ inA behindA
  obtain ⟨plugins, discovers⟩ := succeeds.2 ⟨⟨_, root⟩, every⟩
  have ids := (exactly plugins discovers).2.1
  refine ⟨plugins, discovers, (alike linkLast relisted plugins).1 discovers, ?_, ?_⟩
  · exact (ids "a").2 ⟨⟨_, root, by simp⟩, ⟨_, _, inA⟩⟩
  · exact (ids "b").2 ⟨⟨_, root, by simp⟩, ⟨_, _, inB⟩⟩

end Plugin

end Settings
