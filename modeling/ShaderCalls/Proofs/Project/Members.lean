import ShaderCalls.Project.Workspace
import ShaderCalls.Proofs.Project.Folders

/-!
# The sources of a workspace

The targets of a workspace may share the directories of their sources, or have them inside each
other.  A file that several of them reach is loaded once, as a module of the first of them.
-/

namespace ShaderCalls

/-! ## Files without repeated paths -/

namespace SourceFile

variable {file : SourceFile} {sources : List SourceFile}

theorem path_le_of_isLE {left right : String} (hle : (compare left right).isLE) : left ≤ right := by
  by_cases hsame : left = right
  · exact hsame ▸ String.le_refl left
  · exact String.not_lt.mp (String.lt_asymm (path_lt_of_isLE hle hsame))

theorem pairwise_sorted (sources : List SourceFile) :
    (sorted sources).Pairwise (·.path ≤ ·.path) :=
  (pairwise_mergeSort_key path sources).imp path_le_of_isLE

/-- The files that are kept are the first ones with their paths. -/
theorem mem_dropRepeated_iff {previous : Option String}
    (hsorted : sources.Pairwise (·.path ≤ ·.path))
    (hlow : ∀ path ∈ previous, ∀ other ∈ sources, path ≤ other.path) :
    file ∈ dropRepeated previous sources ↔
      previous ≠ some file.path ∧ sources.find? (·.path = file.path) = some file := by
  induction sources generalizing previous with
  | nil => simp [dropRepeated]
  | cons first rest ih =>
      obtain ⟨hfirst, hrest⟩ := List.pairwise_cons.mp hsorted
      have hbelow : ∀ path ∈ previous, ∀ other ∈ rest, path ≤ other.path :=
        fun path hpath other hother => hlow path hpath other (.tail _ hother)
      have hnext : ∀ path ∈ some first.path, ∀ other ∈ rest, path ≤ other.path := by
        rintro _ ⟨⟩
        exact hfirst
      rw [dropRepeated, List.find?_cons]
      split
      · next hrepeated =>
          rw [ih hrest hbelow, hrepeated]
          apply and_congr_right
          intro hother
          have hdiffers : first.path ≠ file.path := fun heq => hother (congrArg some heq)
          simp [hdiffers]
      · next hnew =>
          rw [List.mem_cons, ih hrest hnext]
          by_cases hsame : first.path = file.path
          · have hprevious : previous ≠ some file.path := hsame ▸ hnew
            simp [hsame, hprevious, eq_comm]
          · have hfile : file ≠ first := by
              rintro rfl
              exact hsame rfl
            have hprevious : rest.find? (·.path = file.path) = some file →
                previous ≠ some file.path := by
              intro hfound hrepeated
              have hmem := List.mem_of_find?_eq_some hfound
              exact hsame (String.le_antisymm (hfirst file hmem)
                (hlow _ hrepeated first List.mem_cons_self))
            have hother : some first.path ≠ some file.path :=
              fun heq => hsame (Option.some.inj heq)
            rw [or_iff_right hfile, and_iff_right hother, decide_eq_false hsame]
            exact (and_iff_right_of_imp hprevious).symm

theorem lt_of_mem_dropRepeated {previous : String} (hsorted : sources.Pairwise (·.path ≤ ·.path))
    (hlow : ∀ other ∈ sources, previous ≤ other.path)
    (hfile : file ∈ dropRepeated (some previous) sources) : previous < file.path := by
  have hprevious : ∀ path ∈ some previous, ∀ other ∈ sources, path ≤ other.path := by
    rintro _ ⟨⟩
    exact hlow
  obtain ⟨hdiffers, hfound⟩ := (mem_dropRepeated_iff hsorted hprevious).mp hfile
  have hle := hlow file (List.mem_of_find?_eq_some hfound)
  apply String.not_le.mp
  intro hge
  exact hdiffers (congrArg some (String.le_antisymm hle hge))

theorem ascending_dropRepeated {previous : Option String}
    (hsorted : sources.Pairwise (·.path ≤ ·.path)) :
    (dropRepeated previous sources).Pairwise (·.path < ·.path) := by
  induction sources generalizing previous with
  | nil => exact .nil
  | cons first rest ih =>
      obtain ⟨hfirst, hrest⟩ := List.pairwise_cons.mp hsorted
      rw [dropRepeated]
      split
      · exact ih hrest
      · exact .cons (fun _ hfile => lt_of_mem_dropRepeated hrest hfirst hfile) (ih hrest)

/-- In the order of their paths, the files that are kept are those found first. -/
theorem mem_dropRepeated_sorted_iff :
    file ∈ dropRepeated none (sorted sources) ↔
      sources.find? (·.path = file.path) = some file := by
  rw [mem_dropRepeated_iff (pairwise_sorted sources) (by simp), sorted,
    find?_mergeSort_key path sources]
  simp

theorem exists_mem_dropRepeated_sorted_iff {path : String} :
    (∃ file ∈ dropRepeated none (sorted sources), file.path = path) ↔
      ∃ file ∈ sources, file.path = path := by
  constructor
  · rintro ⟨file, hfile, hpath⟩
    exact ⟨file, List.mem_of_find?_eq_some (mem_dropRepeated_sorted_iff.mp hfile), hpath⟩
  · rintro ⟨file, hfile, hpath⟩
    have hfound : (sources.find? (·.path = path)).isSome :=
      List.find?_isSome.mpr ⟨file, hfile, decide_eq_true hpath⟩
    obtain ⟨first, hfirst⟩ := Option.isSome_iff_exists.mp hfound
    obtain rfl : first.path = path := by simpa using List.find?_some hfirst
    exact ⟨first, mem_dropRepeated_sorted_iff.mpr hfirst, rfl⟩

end SourceFile

/-! ## Targets -/

namespace Workspace

/-- The package of a member. -/
def package? (workspace : Workspace) (member : String) : Option Package :=
  workspace.packages.find? (·.id == member)

/-- Sources are loaded for a target in the package of a member. -/
structure Loads (workspace : Workspace) (package : Package) (target : Target) : Prop where
  isMember : ∃ member ∈ workspace.members, workspace.package? member = some package
  isTarget : target ∈ package.targets
  hasSources : target.hasSources

variable {workspace : Workspace}

theorem mem_directories_iff {directory crate : String} :
    (directory, crate) ∈ workspace.directories ↔ ∃ package target,
      workspace.Loads package target ∧ Path.directory target.source = directory ∧
        package.crate = crate := by
  rw [directories, List.mem_flatMap]
  constructor
  · rintro ⟨member, hmember, hplace⟩
    split at hplace
    · contradiction
    · next package hpackage =>
        obtain ⟨target, htarget, hsame⟩ := List.mem_map.mp hplace
        obtain ⟨hdirectory, hcrate⟩ := Prod.mk.inj hsame
        obtain ⟨htarget, hsources⟩ := List.mem_filter.mp htarget
        exact ⟨package, target, ⟨⟨member, hmember, hpackage⟩, htarget, hsources⟩, hdirectory,
          hcrate⟩
  · rintro ⟨package, target, ⟨⟨member, hmember, hpackage⟩, htarget, hsources⟩, rfl, rfl⟩
    rw [package?] at hpackage
    refine ⟨member, hmember, ?_⟩
    rw [hpackage]
    exact List.mem_map_of_mem (List.mem_filter.mpr ⟨htarget, hsources⟩)

end Workspace

namespace Files

variable {files other : Files} {workspace : Workspace} {package : Package} {target : Target}
variable {start path crate : String} {file : SourceFile}

/-- A target reaches a source file from the directory of its sources. -/
def Reaches (files : Files) (target : Target) (path : String) : Prop :=
  target.hasSources ∧ ∃ text, files.HasSource (Path.directory target.source) path (some text)

/-- Of all targets that reach a path, one is the first: none does that stands before it in its
package, and none in the package of a member before its own. -/
structure ReachesFirst (files : Files) (workspace : Workspace) (path : String) (package : Package)
    (target : Target) : Prop where
  reaches : files.Reaches target path
  isFirst : ∃ before member after earlier later, workspace.members = before ++ member :: after ∧
    workspace.package? member = some package ∧ package.targets = earlier ++ target :: later ∧
    (∀ other ∈ earlier, ¬ files.Reaches other path) ∧
    ∀ other ∈ before, ∀ package ∈ workspace.package? other, ∀ target ∈ package.targets,
      ¬ files.Reaches target path

/-- The sources of a workspace in ascending order of their paths, which are those that a target
reaches.  Each file is the module that its path is below the directory of the first target that
reaches it. -/
structure WorkspaceSources (files : Files) (workspace : Workspace) (sources : List SourceFile) :
    Prop where
  ascending : sources.Pairwise (·.path < ·.path)
  exists_iff : ∀ path, (∃ file ∈ sources, file.path = path) ↔
    ∃ package target, workspace.Loads package target ∧ files.Reaches target path
  mem_iff : ∀ file, file ∈ sources ↔
    ∃ package target, files.ReachesFirst workspace file.path package target ∧
      files.HasSource (Path.directory target.source) file.path (some file.text) ∧
      file.module = modulePath (Path.directory target.source) file.path package.crate

/-! ## Sources of targets and of members -/

/-- The sources that a target reaches, as modules of its package. -/
def targetSources (files : Files) (package : Package) (target : Target) : List SourceFile :=
  if target.hasSources then files.found (Path.directory target.source) package.crate else []

/-- The sources that the targets of a member reach. -/
def memberSources (files : Files) (workspace : Workspace) (member : String) : List SourceFile :=
  match workspace.package? member with
  | none => []
  | some package => package.targets.flatMap (files.targetSources package)

theorem mem_targetSources_iff (hnames : files.root.WellNamed) :
    file ∈ files.targetSources package target ↔ target.hasSources ∧
      files.HasSource (Path.directory target.source) file.path (some file.text) ∧
      file.module = modulePath (Path.directory target.source) file.path package.crate := by
  rw [targetSources]
  split
  · next hsources => rw [mem_found_iff hnames, and_iff_right hsources]
  · next hsources => simp [hsources]

theorem mem_memberSources_iff {member : String} :
    file ∈ files.memberSources workspace member ↔ ∃ package target,
      workspace.package? member = some package ∧ target ∈ package.targets ∧
        file ∈ files.targetSources package target := by
  rw [memberSources]
  cases workspace.package? member with
  | none => simp
  | some package => simp [List.mem_flatMap]

/-- A path is that of a source that a target reaches. -/
theorem exists_mem_targetSources_iff (hnames : files.root.WellNamed) :
    (∃ file ∈ files.targetSources package target, file.path = path) ↔
      files.Reaches target path := by
  constructor
  · rintro ⟨file, hfile, rfl⟩
    obtain ⟨hsources, hsource, _⟩ := (mem_targetSources_iff hnames).mp hfile
    exact ⟨hsources, file.text, hsource⟩
  · rintro ⟨hsources, text, hsource⟩
    generalize hmodule : modulePath (Path.directory target.source) path package.crate = module
    have hfile : ⟨module, path, text⟩ ∈ files.targetSources package target :=
      (mem_targetSources_iff hnames).mpr ⟨hsources, hsource, hmodule.symm⟩
    exact ⟨_, hfile, rfl⟩

theorem find?_targetSources_eq_none_iff (hnames : files.root.WellNamed) :
    (files.targetSources package target).find? (·.path = path) = none ↔
      ¬ files.Reaches target path := by
  have hreaches : (∃ file ∈ files.targetSources package target, file.path = path) ↔
      files.Reaches target path :=
    exists_mem_targetSources_iff hnames
  rw [← hreaches, List.find?_eq_none]
  simp

theorem find?_memberSources_eq_none_iff (hnames : files.root.WellNamed) {member : String} :
    (files.memberSources workspace member).find? (·.path = path) = none ↔
      ∀ package ∈ workspace.package? member, ∀ target ∈ package.targets,
        ¬ files.Reaches target path := by
  rw [memberSources]
  cases workspace.package? member with
  | none => simp
  | some package =>
      simp only [List.find?_flatMap, List.findSome?_eq_none_iff,
        find?_targetSources_eq_none_iff hnames, Option.mem_def, Option.some.injEq, forall_eq']

theorem find?_targetSources_eq_some_iff (hnames : files.root.WellNamed) :
    (files.targetSources package target).find? (·.path = file.path) = some file ↔
      file ∈ files.targetSources package target := by
  have hdistinct : ((files.targetSources package target).map (·.path)).Nodup := by
    rw [targetSources]
    split
    · exact nodup_found hnames _ _
    · exact List.nodup_nil
  rw [find?_key_eq_some_iff hdistinct, and_iff_left rfl]

theorem find?_memberSources_eq_some_iff (hnames : files.root.WellNamed) {member : String} :
    (files.memberSources workspace member).find? (·.path = file.path) = some file ↔
      ∃ package earlier target later, workspace.package? member = some package ∧
        package.targets = earlier ++ target :: later ∧
        file ∈ files.targetSources package target ∧
        ∀ other ∈ earlier, ¬ files.Reaches other file.path := by
  rw [memberSources]
  cases workspace.package? member with
  | none => simp
  | some package =>
      simp only [List.find?_flatMap, List.findSome?_eq_some_iff,
        find?_targetSources_eq_none_iff hnames, find?_targetSources_eq_some_iff hnames,
        Option.some.injEq, exists_and_left, exists_eq_left']

theorem exists_mem_sources_iff (hnames : files.root.WellNamed) :
    (∃ file ∈ workspace.members.flatMap (files.memberSources workspace), file.path = path) ↔
      ∃ package target, workspace.Loads package target ∧ files.Reaches target path := by
  constructor
  · rintro ⟨file, hfile, hpath⟩
    obtain ⟨member, hmember, hfile⟩ := List.mem_flatMap.mp hfile
    obtain ⟨package, target, hpackage, htarget, hfile⟩ := mem_memberSources_iff.mp hfile
    have hreaches := (exists_mem_targetSources_iff hnames).mp ⟨file, hfile, hpath⟩
    exact ⟨package, target, ⟨⟨member, hmember, hpackage⟩, htarget, hreaches.1⟩, hreaches⟩
  · rintro ⟨package, target, ⟨⟨member, hmember, hpackage⟩, htarget, _⟩, hreaches⟩
    obtain ⟨file, hfile, hpath⟩ := (exists_mem_targetSources_iff hnames).mpr hreaches
    have hown := mem_memberSources_iff.mpr ⟨package, target, hpackage, htarget, hfile⟩
    exact ⟨file, List.mem_flatMap.mpr ⟨member, hmember, hown⟩, hpath⟩

/-- The sources of all members, of which the first with a path is found. -/
theorem find?_sources_eq_some_iff (hnames : files.root.WellNamed) :
    (workspace.members.flatMap (files.memberSources workspace)).find? (·.path = file.path) =
        some file ↔
      ∃ package target, files.ReachesFirst workspace file.path package target ∧
        files.HasSource (Path.directory target.source) file.path (some file.text) ∧
        file.module = modulePath (Path.directory target.source) file.path package.crate := by
  rw [List.find?_flatMap, List.findSome?_eq_some_iff]
  simp only [find?_memberSources_eq_none_iff hnames, find?_memberSources_eq_some_iff hnames]
  constructor
  · rintro ⟨before, member, after, hmembers, ⟨package, earlier, target, later, hpackage, htargets,
      hfile, hearlier⟩, hbefore⟩
    obtain ⟨hsources, hsource, hmodule⟩ := (mem_targetSources_iff hnames).mp hfile
    exact ⟨package, target, ⟨⟨hsources, file.text, hsource⟩, before, member, after, earlier, later,
      hmembers, hpackage, htargets, hearlier, hbefore⟩, hsource, hmodule⟩
  · rintro ⟨package, target, ⟨⟨hsources, _⟩, before, member, after, earlier, later, hmembers,
      hpackage, htargets, hearlier, hbefore⟩, hsource, hmodule⟩
    have hfile := (mem_targetSources_iff hnames).mpr ⟨hsources, hsource, hmodule⟩
    exact ⟨before, member, after, hmembers, ⟨package, earlier, target, later, hpackage, htargets,
      hfile, hearlier⟩, hbefore⟩

/-! ## Loading a workspace -/

/-- The source files below a start can be read, and a file in place of the start does not matter. -/
structure CanRead (files : Files) (start : String) : Prop where
  hasText : ∀ path, ¬ files.HasSource start path none
  isDirectory : files.IsPlainFile start → isSkipped start

theorem SameContents.canRead (hsame : files.SameContents other) (hread : files.CanRead start) :
    other.CanRead start where
  hasText path hsource := hread.hasText path (hsame.symm.hasSource hsource)
  isDirectory hplain := hread.isDirectory (hsame.symm.isPlainFile hplain)

theorem listing_of_isPlainFile (hplain : files.IsPlainFile start) : files.listing start = [] := by
  obtain ⟨text, htext⟩ := hplain
  rw [listing, htext]

theorem listSources_of_canRead (hnames : files.root.WellNamed) (hread : files.CanRead start)
    (crate : String) : files.listSources start crate = .ok (files.found start crate) := by
  by_cases hplain : files.IsPlainFile start
  · rw [listSources, if_pos (hread.isDirectory hplain), found, listing_of_isPlainFile hplain]
    rfl
  · exact listSources_of_readable hnames hplain hread.hasText crate

theorem listSources_of_not_canRead (hnames : files.root.WellNamed) (hread : ¬ files.CanRead start)
    (crate : String) : ∃ error, files.listSources start crate = .error error := by
  by_cases hsource : ∃ path, files.HasSource start path none
  · obtain ⟨path, hsource⟩ := hsource
    exact listSources_of_unreadable hnames hsource crate
  · have hplain : ¬ (files.IsPlainFile start → isSkipped start) := by
      intro hskipped
      exact hread ⟨not_exists.mp hsource, hskipped⟩
    obtain ⟨⟨text, htext⟩, hkept⟩ := Classical.not_imp.mp hplain
    refine ⟨.readDirectory start .notDirectory, ?_⟩
    rw [listSources, if_neg hkept, htext]

theorem flatMap_found_targets (files : Files) (package : Package) (targets : List Target) :
    (targets.filter Target.hasSources).flatMap
        (fun target => files.found (Path.directory target.source) package.crate) =
      targets.flatMap (files.targetSources package) := by
  induction targets with
  | nil => rfl
  | cons target rest ih =>
      rw [List.filter_cons, List.flatMap_cons, targetSources, ← ih]
      split <;> simp

theorem flatMap_found_directories (files : Files) (workspace : Workspace) :
    workspace.directories.flatMap (fun place => files.found place.1 place.2) =
      workspace.members.flatMap (files.memberSources workspace) := by
  rw [Workspace.directories, List.flatMap_assoc]
  congr 1
  funext member
  rw [memberSources, Workspace.package?]
  cases workspace.packages.find? (·.id == member) with
  | none => rfl
  | some package =>
      simp only [List.flatMap_map]
      exact flatMap_found_targets files package package.targets

theorem loadMembers_of_canRead (hnames : files.root.WellNamed)
    (hread : ∀ package target, workspace.Loads package target →
      files.CanRead (Path.directory target.source)) :
    files.loadMembers workspace = .ok (SourceFile.dropRepeated none
      (SourceFile.sorted (workspace.members.flatMap (files.memberSources workspace)))) := by
  have hlisted : workspace.directories.mapM (fun place => files.listSources place.1 place.2) =
      .ok (workspace.directories.map fun place => files.found place.1 place.2) := by
    apply mapM_eq_ok
    rw [List.forall₂_map_right_iff, List.forall₂_same]
    rintro ⟨directory, crate⟩ hplace
    obtain ⟨package, target, hloads, rfl, rfl⟩ := Workspace.mem_directories_iff.mp hplace
    exact listSources_of_canRead hnames (hread package target hloads) _
  rw [loadMembers, hlisted, ← flatMap_found_directories, List.flatMap_def]
  rfl

theorem loadMembers_of_not_canRead (hnames : files.root.WellNamed)
    (hloads : workspace.Loads package target)
    (hread : ¬ files.CanRead (Path.directory target.source)) :
    ∃ error, files.loadMembers workspace = .error error := by
  have hplace := Workspace.mem_directories_iff.mpr ⟨package, target, hloads, rfl, rfl⟩
  obtain ⟨error, herror⟩ := listSources_of_not_canRead hnames hread package.crate
  obtain ⟨failed, hfailed⟩ : ∃ failed, workspace.directories.mapM
      (fun place => files.listSources place.1 place.2) = .error failed := by
    apply exists_error_of_mapM hplace
    simp [herror]
  refine ⟨failed, ?_⟩
  rw [loadMembers, hfailed]
  rfl

theorem workspaceSources_of_wellNamed (hnames : files.root.WellNamed) (workspace : Workspace) :
    files.WorkspaceSources workspace (SourceFile.dropRepeated none
      (SourceFile.sorted (workspace.members.flatMap (files.memberSources workspace)))) where
  ascending := SourceFile.ascending_dropRepeated (SourceFile.pairwise_sorted _)
  mem_iff _ := SourceFile.mem_dropRepeated_sorted_iff.trans (find?_sources_eq_some_iff hnames)
  exists_iff _ :=
    SourceFile.exists_mem_dropRepeated_sorted_iff.trans (exists_mem_sources_iff hnames)

theorem SameContents.reaches_eq (hsame : files.SameContents other) :
    files.Reaches = other.Reaches := by
  funext target path
  simp only [Reaches, hsame.hasSource_iff]

theorem SameContents.reachesFirst (hsame : files.SameContents other)
    (hfirst : files.ReachesFirst workspace path package target) :
    other.ReachesFirst workspace path package target := by
  obtain ⟨hreaches, hisFirst⟩ := hfirst
  rw [hsame.reaches_eq] at hreaches hisFirst
  exact ⟨hreaches, hisFirst⟩

/-- The sources of a workspace are told by the contents of the tree. -/
theorem WorkspaceSources.eq {sources others : List SourceFile}
    (hsources : files.WorkspaceSources workspace sources)
    (hothers : other.WorkspaceSources workspace others) (hsame : files.SameContents other) :
    sources = others := by
  have hfirst : ∀ path package target, files.ReachesFirst workspace path package target ↔
      other.ReachesFirst workspace path package target :=
    fun _ _ _ => ⟨hsame.reachesFirst, hsame.symm.reachesFirst⟩
  apply SourceFile.eq_of_ascending hsources.ascending hothers.ascending
  intro file
  rw [hsources.mem_iff, hothers.mem_iff]
  simp only [hfirst, hsame.hasSource_iff]

theorem loadWorkspace_of_description {description : String}
    (hdescription : Workspace.ofDescription? description = some workspace) :
    files.loadWorkspace description = files.loadMembers workspace := by
  rw [loadWorkspace, hdescription]

/-- If the sources of all targets of the members can be read, then the sources of the workspace are
loaded, and otherwise there is an error.  They are those of any tree with the same contents, listed
in another order. -/
theorem loadMembers_workspaceSources (files : Files) (workspace : Workspace)
    (hnames : files.root.WellNamed) :
    ((∀ package target, workspace.Loads package target →
        files.CanRead (Path.directory target.source)) →
      ∃ sources, files.loadMembers workspace = .ok sources ∧
        files.WorkspaceSources workspace sources ∧
        (∀ description, Workspace.ofDescription? description = some workspace →
          files.loadWorkspace description = .ok sources) ∧
        ∀ other : Files, files.SameContents other → other.root.WellNamed →
          other.loadMembers workspace = .ok sources) ∧
    (∀ package target, workspace.Loads package target →
      ¬ files.CanRead (Path.directory target.source) →
        ∃ error, files.loadMembers workspace = .error error) := by
  refine ⟨fun hread => ?_, fun package target => loadMembers_of_not_canRead hnames⟩
  have hloaded := loadMembers_of_canRead hnames hread
  have hsources := workspaceSources_of_wellNamed hnames workspace
  refine ⟨_, hloaded, hsources, fun description hdescription => ?_, fun other hsame hothers => ?_⟩
  · rw [loadWorkspace_of_description hdescription, hloaded]
  · have hothersRead : ∀ package target, workspace.Loads package target →
        other.CanRead (Path.directory target.source) :=
      fun package target hloads => hsame.canRead (hread package target hloads)
    rw [loadMembers_of_canRead hothers hothersRead,
      hsources.eq (workspaceSources_of_wellNamed hothers workspace) hsame]

/-- A crate whose library has the sources of its program inside, and another one that shares
them. -/
def litMembers : Workspace where
  members := ["lit-up", "sun"]
  packages :=
    [⟨"sun", "sun", [⟨["lib"], "./light/sun.rs"⟩]⟩,
      ⟨"lit-up", "lit-up", [⟨["test"], "./target/built.rs"⟩, ⟨["bin"], "./light/mod.rs"⟩,
        ⟨["lib"], "./lib.rs"⟩]⟩]

def litMemberSources : List SourceFile :=
  [⟨"lit_up", "./lib.rs", "mod light;"⟩, ⟨"lit_up", "./light/mod.rs", "mod sun;"⟩,
    ⟨"lit_up::sun", "./light/sun.rs", "fn shine() {}"⟩]

theorem litMembers_workspaceSources :
    lit.root.WellNamed ∧
      (∀ package target, litMembers.Loads package target →
        lit.CanRead (Path.directory target.source)) ∧
      lit.WorkspaceSources litMembers litMemberSources ∧
      lit.loadMembers litMembers = .ok litMemberSources ∧
      litRelisted.loadMembers litMembers = .ok litMemberSources := by
  have hread : ∀ package target, litMembers.Loads package target →
      lit.CanRead (Path.directory target.source) := by
    intro package target hloads
    have hplace := Workspace.mem_directories_iff.mpr ⟨package, target, hloads, rfl, rfl⟩
    have hlisted : ∀ place ∈ litMembers.directories,
        (∀ entry ∈ lit.listing place.1, entry.2 ≠ none) ∧
          (lit.node place.1).toOption.any FileNode.isDirectory := by
      decide +kernel
    obtain ⟨hentries, hdirectory⟩ := hlisted _ hplace
    refine ⟨lit_readable hentries, ?_⟩
    rintro ⟨text, htext⟩
    rw [htext] at hdirectory
    exact absurd hdirectory Bool.false_ne_true
  obtain ⟨hloads, _⟩ := loadMembers_workspaceSources lit litMembers wellNamed_lit
  obtain ⟨sources, hloaded, hsources, _, hothers⟩ := hloads hread
  let reached := litMembers.members.flatMap (lit.memberSources litMembers)
  have hfirst : ∀ file ∈ reached,
      reached.find? (·.path = file.path) = some file ↔ file ∈ litMemberSources := by
    decide +kernel
  have hreached : litMemberSources ⊆ reached := by
    decide +kernel
  have hexpected : sources = litMemberSources := by
    apply SourceFile.eq_of_ascending hsources.ascending (by decide)
    intro file
    rw [hsources.mem_iff, ← find?_sources_eq_some_iff wellNamed_lit]
    constructor
    · intro hfound
      exact (hfirst file (List.mem_of_find?_eq_some hfound)).mp hfound
    · intro hmem
      exact (hfirst file (hreached hmem)).mpr hmem
  subst hexpected
  exact ⟨wellNamed_lit, hread, hsources, hloaded,
    hothers _ sameContents_litRelisted wellNamed_litRelisted⟩

end Files

end ShaderCalls
