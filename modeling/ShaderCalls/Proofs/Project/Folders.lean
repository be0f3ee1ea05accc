import ShaderCalls.Project.Sources
import ShaderCalls.Proofs.Files.Tree
import ShaderCalls.Proofs.Ordered

/-!
# The sources of a folder

A folder is loaded as the files below it that have the extension of source files and to which no
directory without sources leads.  It is loaded if all of them can be read, and then each of them
once, in the order of their paths and as the module that its path tells.  The order in which
directories list their entries changes nothing of that.
-/

namespace ShaderCalls

open ShaderCalls.Path (Component IsEntry components join extension?)

/-! ## Listing -/

namespace FileNode

mutual

/-- The source files found at a path with their texts, in the order in which they are listed. -/
def listing (path : String) : FileNode → List (String × Option String)
  | .directory entries => if isSkipped path then [] else entryListing path entries
  | .file text => if extension? path = some sourceExtension then [(path, text)] else []

/-- The source files found at the entries of a directory. -/
def entryListing (directory : String) : List (String × FileNode) → List (String × Option String)
  | [] => []
  | (name, node) :: rest => node.listing (join directory name) ++ entryListing directory rest

end

/-- Directories of these names lead from a node to a source file of a name, and none of them is one
without sources. -/
structure HoldsSource (node : FileNode) (directories : List String) (name : String)
    (text : Option String) : Prop where
  found : node.find? (directories ++ [name]) = some (.file text)
  source : extension? name = some sourceExtension
  unskipped : ∀ directory ∈ directories, directory ∉ skippedDirectories

/-- The path of what names lead to. -/
def pathBelow (start : String) (directories : List String) (name : String) : String :=
  join (directories.foldl join start) name

variable {entries : List (String × FileNode)} {node : FileNode} {text : Option String}
variable {path name found : String}

theorem entryListing_eq_flatMap (directory : String) (entries : List (String × FileNode)) :
    entryListing directory entries =
      entries.flatMap fun entry => entry.2.listing (join directory entry.1) := by
  induction entries with
  | nil => rfl
  | cons entry entries ih =>
      obtain ⟨name, node⟩ := entry
      rw [entryListing, ih, List.flatMap_cons]

theorem not_holdsSource_file (own : Option String) (directories : List String) (name : String)
    (text : Option String) : ¬ (FileNode.file own).HoldsSource directories name text := by
  rintro ⟨hfound, _, _⟩
  cases directories with
  | nil => simp [find?_file] at hfound
  | cons directory directories => simp [find?_file] at hfound

theorem holdsSource_nil_iff :
    (FileNode.directory entries).HoldsSource [] name text ↔
      entries.lookup name = some (.file text) ∧ extension? name = some sourceExtension := by
  have hfind : (FileNode.directory entries).find? [name] = entries.lookup name := by
    rw [find?_directory]
    cases entries.lookup name <;> rfl
  constructor
  · rintro ⟨hfound, hsource, _⟩
    exact ⟨hfind ▸ hfound, hsource⟩
  · rintro ⟨hfound, hsource⟩
    exact ⟨hfind.trans hfound, hsource, List.forall_mem_nil _⟩

theorem holdsSource_cons_iff {directory : String} {directories : List String} :
    (FileNode.directory entries).HoldsSource (directory :: directories) name text ↔
      directory ∉ skippedDirectories ∧ ∃ node, entries.lookup directory = some node ∧
        node.HoldsSource directories name text := by
  constructor
  · rintro ⟨hfound, hsource, hunskipped⟩
    rw [List.cons_append, find?_directory] at hfound
    obtain ⟨node, hnode, hfound⟩ := Option.bind_eq_some_iff.mp hfound
    obtain ⟨hfirst, hrest⟩ := List.forall_mem_cons.mp hunskipped
    exact ⟨hfirst, node, hnode, hfound, hsource, hrest⟩
  · rintro ⟨hfirst, node, hnode, hfound, hsource, hrest⟩
    refine ⟨?_, hsource, List.forall_mem_cons.mpr ⟨hfirst, hrest⟩⟩
    rw [List.cons_append, find?_directory, hnode]
    exact hfound

theorem isSkipped_join_iff (directory : String) (hname : IsEntry name) :
    isSkipped (join directory name) ↔ name ∈ skippedDirectories := by
  simp [isSkipped, Path.name?_join directory hname]

/-- A path is listed if it is that of a source file itself, or if it leads to one from a directory
with sources. -/
theorem WellNamed.mem_listing_iff (hnode : node.WellNamed) (path found : String)
    (text : Option String) :
    (found, text) ∈ node.listing path ↔
      (node = .file text ∧ found = path ∧ extension? path = some sourceExtension) ∨
      (¬ isSkipped path ∧ ∃ directories name, node.HoldsSource directories name text ∧
        found = pathBelow path directories name) := by
  induction hnode generalizing path with
  | file own =>
      simp only [not_holdsSource_file, false_and, exists_false, and_false, or_false]
      rw [listing]
      split
      · next hsource => simp [hsource, and_comm, eq_comm]
      · next hsource => simp [hsource]
  | @directory entries hdistinct hnames hnodes ih =>
      have hnotFile : FileNode.directory entries ≠ .file text := by
        simp
      by_cases hskipped : isSkipped path
      · simp [listing, hskipped]
      rw [listing, if_neg hskipped, entryListing_eq_flatMap, List.mem_flatMap,
        or_iff_right fun h => hnotFile h.1, and_iff_right hskipped]
      constructor
      · rintro ⟨⟨name, node⟩, hentry, hlisted⟩
        have hlookup := (lookup_eq_some_iff_mem hdistinct).mpr hentry
        rcases (ih _ hentry _).mp hlisted with ⟨rfl, rfl, hsource⟩ | ⟨hopen, directories, last,
          hholds, rfl⟩
        · rw [Path.extension?_join path (hnames _ hentry)] at hsource
          exact ⟨[], name, holdsSource_nil_iff.mpr ⟨hlookup, hsource⟩, rfl⟩
        · rw [isSkipped_join_iff path (hnames _ hentry)] at hopen
          exact ⟨name :: directories, last,
            holdsSource_cons_iff.mpr ⟨hopen, node, hlookup, hholds⟩, rfl⟩
      · rintro ⟨directories, last, hholds, rfl⟩
        cases directories with
        | nil =>
            obtain ⟨hlookup, hsource⟩ := holdsSource_nil_iff.mp hholds
            have hentry := (lookup_eq_some_iff_mem hdistinct).mp hlookup
            refine ⟨_, hentry, (ih _ hentry _).mpr (Or.inl ⟨rfl, rfl, ?_⟩)⟩
            rwa [Path.extension?_join path (hnames _ hentry)]
        | cons name directories =>
            obtain ⟨hopen, node, hlookup, hholds⟩ := holdsSource_cons_iff.mp hholds
            have hentry := (lookup_eq_some_iff_mem hdistinct).mp hlookup
            refine ⟨_, hentry, (ih _ hentry _).mpr (Or.inr ⟨?_, directories, last, hholds, rfl⟩)⟩
            rwa [isSkipped_join_iff path (hnames _ hentry)]

/-- Every path that is listed leads from the path of the node through the names below it. -/
theorem WellNamed.components_of_mem_listing (hnode : node.WellNamed)
    (hlisted : (found, text) ∈ node.listing path) :
    ∃ names : List String, components found = components path ++ names.map .named := by
  induction hnode generalizing path with
  | file own =>
      rw [listing] at hlisted
      split at hlisted
      · obtain ⟨rfl, rfl⟩ := Prod.mk.inj (List.mem_singleton.mp hlisted)
        exact ⟨[], by simp⟩
      · contradiction
  | @directory entries hdistinct hnames hnodes ih =>
      rw [listing] at hlisted
      split at hlisted
      · contradiction
      · rw [entryListing_eq_flatMap, List.mem_flatMap] at hlisted
        obtain ⟨entry, hentry, hlisted⟩ := hlisted
        obtain ⟨names, hfound⟩ := ih entry hentry hlisted
        refine ⟨entry.1 :: names, ?_⟩
        rw [hfound, Path.components_join path (hnames entry hentry)]
        simp

/-- No path is listed twice. -/
theorem WellNamed.nodup_listing (hnode : node.WellNamed) (path : String) :
    ((node.listing path).map (·.1)).Nodup := by
  induction hnode generalizing path with
  | file own =>
      rw [listing]
      split <;> simp
  | @directory entries hdistinct hnames hnodes ih =>
      rw [listing]
      split
      · exact List.nodup_nil
      · rw [entryListing_eq_flatMap, List.map_flatMap, List.nodup_flatMap]
        refine ⟨fun entry hentry => ih entry hentry _, ?_⟩
        apply (List.pairwise_map.mp hdistinct).imp_of_mem
        intro left right hleft hright hne listed hinLeft hinRight
        -- The first name below the directory tells the listings of two entries apart.
        have hbelow : ∀ entry ∈ entries,
            listed ∈ (entry.2.listing (join path entry.1)).map (·.1) →
              ∃ rest, components listed = components path ++ .named entry.1 :: rest := by
          intro entry hentry hin
          obtain ⟨⟨_, _⟩, hlisted, rfl⟩ := List.mem_map.mp hin
          obtain ⟨names, hfound⟩ := (hnodes entry hentry).components_of_mem_listing hlisted
          rw [Path.components_join path (hnames entry hentry), List.append_assoc] at hfound
          exact ⟨_, hfound⟩
        obtain ⟨_, hleftFound⟩ := hbelow left hleft hinLeft
        obtain ⟨_, hrightFound⟩ := hbelow right hright hinRight
        have hfirst := List.append_cancel_left (hleftFound.symm.trans hrightFound)
        exact hne (Component.named.inj (List.cons.inj hfirst).1)

end FileNode

/-! ## Reading -/

/-- A listed file as a module of a crate, if it can be read. -/
def SourceFile.ofListed (root crate : String) :
    String × Option String → Except LoadError SourceFile
  | (path, some text) => .ok ⟨modulePath root path crate, path, text⟩
  | (path, none) => .error (.readFile path .notText)

mutual

/-- The sources found at a path are the listed files, read one after the other. -/
theorem FileNode.sources_eq_mapM (root crate : String) : ∀ (path : String) (node : FileNode),
    node.sources root crate path = (node.listing path).mapM (SourceFile.ofListed root crate)
  | path, .directory entries => by
      rw [FileNode.sources, FileNode.listing]
      split
      · rfl
      · exact FileNode.entrySources_eq_mapM root crate path entries
  | path, .file (some text) => by
      rw [FileNode.sources, FileNode.listing]
      split <;> rfl
  | path, .file none => by
      rw [FileNode.sources, FileNode.listing]
      split <;> rfl

theorem FileNode.entrySources_eq_mapM (root crate : String) : ∀ (directory : String)
    (entries : List (String × FileNode)), FileNode.entrySources root crate directory entries =
      (FileNode.entryListing directory entries).mapM (SourceFile.ofListed root crate)
  | _, [] => rfl
  | path, (name, node) :: rest => by
      rw [FileNode.entrySources, FileNode.entryListing, List.mapM_append,
        FileNode.sources_eq_mapM root crate _ node,
        FileNode.entrySources_eq_mapM root crate path rest]
      rfl

end

namespace SourceFile

variable {file : SourceFile} {sources others : List SourceFile}

theorem ofListed_eq_ok_iff {root crate path : String} {text : Option String} :
    ofListed root crate (path, text) = .ok file ↔
      path = file.path ∧ text = some file.text ∧ file.module = modulePath root path crate := by
  obtain ⟨module, filePath, fileText⟩ := file
  cases text with
  | none => simp [ofListed]
  | some text => simp [ofListed, eq_comm, and_comm, and_assoc]

/-! ## The order of paths -/

theorem path_lt_of_isLE {left right : String} (hle : (compare left right).isLE)
    (hne : left ≠ right) : left < right := by
  rcases Ordering.isLE_iff_eq_lt_or_eq_eq.mp hle with hlt | heq
  · exact compareOfLessAndEq_eq_lt.mp hlt
  · exact absurd (Std.LawfulEqCmp.eq_of_compare heq) hne

theorem ascending_sorted (hdistinct : (sources.map (·.path)).Nodup) :
    (sorted sources).Pairwise (·.path < ·.path) := by
  have hperm : (sorted sources).Perm sources := List.mergeSort_perm sources _
  have hsorted : ((sorted sources).map (·.path)).Nodup := (hperm.map _).nodup_iff.mpr hdistinct
  apply (pairwise_mergeSort_key path sources).imp₂ _ (List.pairwise_map.mp hsorted)
  intro left right hle hne
  exact path_lt_of_isLE hle hne

/-- Lists in ascending order with the same files are the same. -/
theorem eq_of_ascending (hsources : sources.Pairwise (·.path < ·.path))
    (hothers : others.Pairwise (·.path < ·.path))
    (hmem : ∀ file, file ∈ sources ↔ file ∈ others) : sources = others := by
  have hdistinct : ∀ {files : List SourceFile}, files.Pairwise (·.path < ·.path) → files.Nodup := by
    intro files hfiles
    apply hfiles.imp
    rintro left _ hlt rfl
    exact String.lt_irrefl _ hlt
  apply List.Perm.eq_of_pairwise _ hsources hothers
  · exact (List.perm_ext_iff_of_nodup (hdistinct hsources) (hdistinct hothers)).mpr hmem
  · intro left right _ _ hlt hgt
    exact absurd hgt (String.lt_asymm hlt)

end SourceFile

/-! ## Folders -/

namespace Files

variable {files other : Files} {start path crate : String} {text : Option String}

/-- A path is that of a source file below a start, with its text, or with none if it cannot be read.
Neither the start nor a directory on the way has the name of one without sources. -/
def HasSource (files : Files) (start path : String) (text : Option String) : Prop :=
  ∃ node directories name, files.node start = .ok node ∧
    (∀ own ∈ Path.name? start, own ∉ skippedDirectories) ∧
    node.HoldsSource directories name text ∧ path = FileNode.pathBelow start directories name

/-- A file stands where a directory should. -/
def IsPlainFile (files : Files) (start : String) : Prop :=
  ∃ text, files.node start = .ok (.file text)

/-- The source files below a start with their texts, in the order in which they are listed. -/
def listing (files : Files) (start : String) : List (String × Option String) :=
  match files.node start with
  | .ok (.directory entries) => (FileNode.directory entries).listing start
  | _ => []

/-- The sources below a start that can be read. -/
def found (files : Files) (start crate : String) : List SourceFile :=
  (files.listing start).filterMap fun entry => (SourceFile.ofListed start crate entry).toOption

theorem not_isSkipped_iff (start : String) :
    ¬ isSkipped start ↔ ∀ own ∈ Path.name? start, own ∉ skippedDirectories := by
  simp [isSkipped, Option.any_eq_true]

theorem mem_listing_iff (hnames : files.root.WellNamed) :
    (path, text) ∈ files.listing start ↔ files.HasSource start path text := by
  unfold listing HasSource
  cases hstart : files.node start with
  | error cause => simp
  | ok node =>
      cases node with
      | file own => simp [FileNode.not_holdsSource_file]
      | directory entries =>
          obtain ⟨names, hfound⟩ := exists_find?_of_node hstart
          rw [(hnames.find? hfound).mem_listing_iff start path text, not_isSkipped_iff]
          simp

theorem nodup_listing (hnames : files.root.WellNamed) (start : String) :
    ((files.listing start).map (·.1)).Nodup := by
  unfold listing
  split
  · next entries hstart =>
      obtain ⟨names, hfound⟩ := exists_find?_of_node hstart
      exact (hnames.find? hfound).nodup_listing start
  · exact List.nodup_nil

/-- The sources below a directory or a missing start are the listed files, read one after the
other. -/
theorem listSources_eq_mapM (hstart : ¬ files.IsPlainFile start) :
    files.listSources start crate =
      (files.listing start).mapM (SourceFile.ofListed start crate) := by
  unfold listSources listing
  cases hnode : files.node start with
  | error cause =>
      split <;> rfl
  | ok node =>
      cases node with
      | file own => exact absurd ⟨own, hnode⟩ hstart
      | directory entries =>
          split
          · next hskipped =>
              change _ = (FileNode.listing start (.directory entries)).mapM _
              rw [FileNode.listing, if_pos hskipped]
              rfl
          · exact FileNode.sources_eq_mapM start crate start (.directory entries)

theorem mem_found_iff (hnames : files.root.WellNamed) {file : SourceFile} :
    file ∈ files.found start crate ↔ files.HasSource start file.path (some file.text) ∧
      file.module = modulePath start file.path crate := by
  rw [found, List.mem_filterMap]
  simp only [toOption_eq_some_iff]
  constructor
  · rintro ⟨⟨path, text⟩, hlisted, hread⟩
    obtain ⟨rfl, rfl, hmodule⟩ := SourceFile.ofListed_eq_ok_iff.mp hread
    exact ⟨(mem_listing_iff hnames).mp hlisted, hmodule⟩
  · rintro ⟨hsource, hmodule⟩
    exact ⟨_, (mem_listing_iff hnames).mpr hsource,
      SourceFile.ofListed_eq_ok_iff.mpr ⟨rfl, rfl, hmodule⟩⟩

theorem nodup_found (hnames : files.root.WellNamed) (start crate : String) :
    ((files.found start crate).map (·.path)).Nodup := by
  rw [List.nodup_iff_pairwise_ne, List.pairwise_map, found]
  have hdistinct := List.pairwise_map.mp (nodup_listing hnames start)
  apply hdistinct.filterMap
  intro left right hne leftFile hleft rightFile hright
  rw [toOption_eq_some_iff] at hleft hright
  rw [← (SourceFile.ofListed_eq_ok_iff.mp hleft).1, ← (SourceFile.ofListed_eq_ok_iff.mp hright).1]
  exact hne

/-- All source files below the start can be read, so they are the result. -/
theorem listSources_of_readable (hnames : files.root.WellNamed)
    (hstart : ¬ files.IsPlainFile start) (hreadable : ∀ path, ¬ files.HasSource start path none)
    (crate : String) : files.listSources start crate = .ok (files.found start crate) := by
  rw [listSources_eq_mapM hstart, found]
  apply mapM_eq_ok_filterMap
  rintro ⟨path, text⟩ hlisted
  cases text with
  | none => exact absurd ((mem_listing_iff hnames).mp hlisted) (hreadable path)
  | some text => exact ⟨_, rfl⟩

theorem listSources_of_unreadable (hnames : files.root.WellNamed)
    (hsource : files.HasSource start path none) (crate : String) :
    ∃ error, files.listSources start crate = .error error := by
  have hstart : ¬ files.IsPlainFile start := by
    rintro ⟨own, hown⟩
    obtain ⟨node, directories, name, hnode, _, hholds, _⟩ := hsource
    cases hown.symm.trans hnode
    exact FileNode.not_holdsSource_file own directories name none hholds
  rw [listSources_eq_mapM hstart]
  apply exists_error_of_mapM ((mem_listing_iff hnames).mpr hsource)
  intro file hfile
  contradiction

/-! ## Independence of the listing order -/

theorem SameContents.exists_node (hsame : files.SameContents other) {node : FileNode}
    (hnode : files.node start = .ok node) :
    ∃ otherNode, other.node start = .ok otherNode ∧ node.SameContents otherNode := by
  have houtcome := hsame.node start
  rw [hnode] at houtcome
  generalize other.node start = outcome at houtcome
  cases houtcome with
  | ok hnodes => exact ⟨_, rfl, hnodes⟩

theorem SameContents.hasSource (hsame : files.SameContents other)
    (hsource : files.HasSource start path text) : other.HasSource start path text := by
  obtain ⟨node, directories, name, hnode, hown, ⟨hfound, hextension, hunskipped⟩, hpath⟩ := hsource
  obtain ⟨otherNode, hother, hnodes⟩ := hsame.exists_node hnode
  have hholds : otherNode.HoldsSource directories name text :=
    ⟨(hnodes.find?_file_iff _ _).mp hfound, hextension, hunskipped⟩
  exact ⟨otherNode, directories, name, hother, hown, hholds, hpath⟩

theorem SameContents.hasSource_iff (hsame : files.SameContents other) :
    files.HasSource start path text ↔ other.HasSource start path text :=
  ⟨hsame.hasSource, hsame.symm.hasSource⟩

theorem SameContents.isPlainFile (hsame : files.SameContents other)
    (hplain : files.IsPlainFile start) : other.IsPlainFile start := by
  obtain ⟨text, htext⟩ := hplain
  obtain ⟨otherNode, hother, hnodes⟩ := hsame.exists_node htext
  exact ⟨text, hnodes.of_file ▸ hother⟩

/-! ## Loading a folder -/

/-- The sources of a folder: those that can be read, in ascending order of their paths. -/
structure FolderSources (files : Files) (start crate : String) (sources : List SourceFile) :
    Prop where
  ascending : sources.Pairwise (·.path < ·.path)
  mem_iff : ∀ file, file ∈ sources ↔ files.HasSource start file.path (some file.text) ∧
    file.module = modulePath start file.path crate

theorem loadFolder_of_listSources {sources : List SourceFile}
    (hlisted : files.listSources start crate = .ok sources) :
    files.loadFolder start crate = .ok (SourceFile.sorted sources) := by
  rw [loadFolder, hlisted]
  rfl

theorem folderSources_sorted_found (hnames : files.root.WellNamed) (start crate : String) :
    files.FolderSources start crate (SourceFile.sorted (files.found start crate)) where
  ascending := SourceFile.ascending_sorted (nodup_found hnames start crate)
  mem_iff _ := List.mem_mergeSort.trans (mem_found_iff hnames)

theorem loadFolder_of_readable (hnames : files.root.WellNamed)
    (hstart : ¬ files.IsPlainFile start) (hreadable : ∀ path, ¬ files.HasSource start path none)
    (crate : String) : ∃ sources, files.loadFolder start crate = .ok sources ∧
      files.FolderSources start crate sources :=
  ⟨_, loadFolder_of_listSources (listSources_of_readable hnames hstart hreadable crate),
    folderSources_sorted_found hnames start crate⟩

theorem loadFolder_of_unreadable (hnames : files.root.WellNamed)
    (hsource : files.HasSource start path none) (crate : String) :
    ∃ error, files.loadFolder start crate = .error error := by
  obtain ⟨error, herror⟩ := listSources_of_unreadable hnames hsource crate
  refine ⟨error, ?_⟩
  rw [loadFolder, herror]
  rfl

theorem loadFolder_of_missing {cause : FileError} (hmissing : files.node start = .error cause) :
    files.loadFolder start crate = .ok [] := by
  have hlisted : files.listSources start crate = .ok [] := by
    rw [listSources, hmissing]
    split <;> rfl
  rw [loadFolder_of_listSources hlisted, SourceFile.sorted, List.mergeSort_nil]

/-- The sources of a folder are told by the contents of the tree. -/
theorem FolderSources.eq {sources others : List SourceFile}
    (hsources : files.FolderSources start crate sources)
    (hothers : other.FolderSources start crate others) (hsame : files.SameContents other) :
    sources = others := by
  apply SourceFile.eq_of_ascending hsources.ascending hothers.ascending
  intro file
  rw [hsources.mem_iff, hothers.mem_iff, hsame.hasSource_iff]

theorem SameContents.loadFolder (hsame : files.SameContents other)
    (hnames : files.root.WellNamed) (hothers : other.root.WellNamed)
    (hstart : ¬ files.IsPlainFile start) {sources : List SourceFile}
    (hloaded : files.loadFolder start crate = .ok sources) :
    other.loadFolder start crate = .ok sources := by
  have hreadable : ∀ path, ¬ files.HasSource start path none := by
    intro path hsource
    obtain ⟨error, herror⟩ := loadFolder_of_unreadable hnames hsource crate
    cases hloaded.symm.trans herror
  obtain ⟨loaded, hload, hfolder⟩ := loadFolder_of_readable hnames hstart hreadable crate
  cases hloaded.symm.trans hload
  obtain ⟨others, hother, hotherFolder⟩ := loadFolder_of_readable hothers
    (fun hplain => hstart (hsame.symm.isPlainFile hplain))
    (fun path hsource => hreadable path (hsame.hasSource_iff.mpr hsource)) crate
  rw [hother, hfolder.eq hotherFolder hsame]

/-- Below a start that is no plain file the sources are exactly the files with the extension of
source files to which no directory without sources leads.  If all of them can be read, they are the
result, and otherwise there is an error; a missing start has none.  A tree with the same contents,
listed in another order, gives the same result. -/
theorem loadFolder_folderSources (files : Files) (start crate : String)
    (hnames : files.root.WellNamed) (hstart : ¬ files.IsPlainFile start) :
    ((∀ path, ¬ files.HasSource start path none) →
      ∃ sources, files.loadFolder start crate = .ok sources ∧
        files.FolderSources start crate sources) ∧
    (∀ path, files.HasSource start path none →
      ∃ error, files.loadFolder start crate = .error error) ∧
    (∀ cause, files.node start = .error cause → files.loadFolder start crate = .ok []) ∧
    (∀ other : Files, files.SameContents other → other.root.WellNamed →
      ∀ sources, files.loadFolder start crate = .ok sources ↔
        other.loadFolder start crate = .ok sources) := by
  refine ⟨fun hreadable => loadFolder_of_readable hnames hstart hreadable crate,
    fun path hsource => loadFolder_of_unreadable hnames hsource crate,
    fun cause => loadFolder_of_missing, fun other hsame hothers sources => ⟨?_, ?_⟩⟩
  · exact hsame.loadFolder hnames hothers hstart
  · apply hsame.symm.loadFolder hothers hnames
    exact fun hplain => hstart (hsame.symm.isPlainFile hplain)

/-- A crate with a module of two files, something that is no source, and build results that cannot
be read. -/
def litEntries : List (String × FileNode) :=
  [("target", .directory [("built.rs", .file none)]),
    ("light", .directory [("sun.rs", .file (some "fn shine() {}")),
      ("mod.rs", .file (some "mod sun;"))]),
    ("notes.txt", .file (some "")), ("lib.rs", .file (some "mod light;"))]

def lit : Files where
  root := .directory litEntries

def litRelisted : Files where
  root := .directory litEntries.reverse

theorem wellNamed_of_perm_litEntries {entries : List (String × FileNode)}
    (hperm : entries.Perm litEntries) : (FileNode.directory entries).WellNamed := by
  have hdistinct : (litEntries.map (·.1)).Nodup := by
    decide
  have hnames : ∀ entry ∈ litEntries, IsEntry entry.1 := by
    decide
  refine .directory ((hperm.map _).nodup_iff.mpr hdistinct)
    (fun entry hentry => hnames entry (hperm.mem_iff.mp hentry)) ?_
  simp only [hperm.mem_iff, litEntries, List.forall_mem_cons]
  refine ⟨.directory (by decide) (by decide) ?_, .directory (by decide) (by decide) ?_, .file _,
    .file _, List.forall_mem_nil _⟩
  · exact List.forall_mem_singleton.mpr (.file _)
  · simp only [List.forall_mem_cons]
    exact ⟨.file _, .file _, List.forall_mem_nil _⟩

theorem wellNamed_lit : lit.root.WellNamed :=
  wellNamed_of_perm_litEntries (.refl _)

theorem wellNamed_litRelisted : litRelisted.root.WellNamed :=
  wellNamed_of_perm_litEntries (List.reverse_perm _)

theorem sameContents_litRelisted : lit.SameContents litRelisted where
  root := FileNode.sameContents_of_perm (by decide) (List.reverse_perm _).symm
  place := rfl

/-- What is listed below a start of the crate can be read. -/
theorem lit_readable {start : String} (hlisted : ∀ entry ∈ lit.listing start, entry.2 ≠ none)
    (path : String) : ¬ lit.HasSource start path none := by
  intro hsource
  exact hlisted _ ((mem_listing_iff wellNamed_lit).mpr hsource) rfl

def litSources : List SourceFile :=
  [⟨"lit", "./lib.rs", "mod light;"⟩, ⟨"lit::light", "./light/mod.rs", "mod sun;"⟩,
    ⟨"lit::light::sun", "./light/sun.rs", "fn shine() {}"⟩]

theorem lit_folderSources :
    lit.root.WellNamed ∧ ¬ lit.IsPlainFile "." ∧ (∀ path, ¬ lit.HasSource "." path none) ∧
      lit.SameContents litRelisted ∧ litRelisted.root.WellNamed ∧
      lit.FolderSources "." "lit" litSources ∧ lit.loadFolder "." "lit" = .ok litSources ∧
      litRelisted.loadFolder "." "lit" = .ok litSources ∧
      lit.loadFolder "shade" "lit" = .ok [] := by
  have hstart : ¬ lit.IsPlainFile "." := by
    rintro ⟨text, htext⟩
    cases htext
  have hmissing : ¬ lit.IsPlainFile "shade" := by
    rintro ⟨text, htext⟩
    cases htext
  have hreadable : ∀ path, ¬ lit.HasSource "." path none := lit_readable (by decide +kernel)
  obtain ⟨hloads, _, _, hothers⟩ := loadFolder_folderSources lit "." "lit" wellNamed_lit hstart
  obtain ⟨_, _, hempty, _⟩ := loadFolder_folderSources lit "shade" "lit" wellNamed_lit hmissing
  obtain ⟨sources, hloaded, hfolder⟩ := hloads hreadable
  have hfound : (lit.found "." "lit").Perm litSources := by
    decide +kernel
  have hsources : sources = litSources := by
    apply SourceFile.eq_of_ascending hfolder.ascending (by decide)
    intro file
    rw [hfolder.mem_iff, ← mem_found_iff wellNamed_lit, hfound.mem_iff]
  subst hsources
  exact ⟨wellNamed_lit, hstart, hreadable, sameContents_litRelisted, wellNamed_litRelisted, hfolder,
    hloaded, (hothers _ sameContents_litRelisted wellNamed_litRelisted _).mp hloaded,
    hempty .notFound rfl⟩

end Files

end ShaderCalls
