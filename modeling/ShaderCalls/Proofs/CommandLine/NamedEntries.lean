import ShaderCalls.CommandLine.Command
import ShaderCalls.Proofs.Discovery.EntryPoints
import ShaderCalls.Proofs.Index.IdentityTexts
import ShaderCalls.Proofs.Project.ModuleFiles

/-!
# Entry points by name

The command can discover every entry point that it finds, or those that it is given by their texts.
Where the texts of identities are read back, which is so unless a crate has a name that begins with
a blank or a colon or is empty, both come to the same.
-/

namespace ShaderCalls

open ShaderCalls.Path (IsEntry)

/-! ## The crates of sources -/

theorem SourceFile.dropRepeated_subset (previous : Option String) (files : List SourceFile) :
    dropRepeated previous files ⊆ files := by
  induction files generalizing previous with
  | nil => exact List.Subset.refl _
  | cons file rest ih =>
      rw [dropRepeated]
      split
      · exact List.subset_cons_of_subset _ (ih previous)
      · exact List.cons_subset_cons _ (ih _)

variable {files : Files}

/-- The sources found in a directory are modules of the crate. -/
theorem beginsName_of_mem_listSources {directory crate : String} {listed : List SourceFile}
    (hcrate : BeginsName crate) (hlisted : files.listSources directory crate = .ok listed) :
    ∀ file ∈ listed, BeginsName file.module := by
  intro file hfile
  rw [module_of_mem_listSources hlisted file hfile]
  exact BeginsPath.qualified ⟨crate, _, rfl, hcrate⟩

theorem beginsName_of_mem_loadFolder {directory crate : String} {loaded : List SourceFile}
    (hcrate : BeginsName crate) (hloaded : files.loadFolder directory crate = .ok loaded) :
    ∀ file ∈ loaded, BeginsName file.module := by
  rw [Files.loadFolder] at hloaded
  cases hlisted : files.listSources directory crate with
  | error error =>
      rw [hlisted] at hloaded
      contradiction
  | ok listed =>
      rw [hlisted] at hloaded
      cases hloaded
      intro file hfile
      exact beginsName_of_mem_listSources hcrate hlisted file (List.mem_mergeSort.mp hfile)

theorem beginsName_of_mem_loadMembers {workspace : Workspace} {loaded : List SourceFile}
    (hcrates : ∀ place ∈ workspace.directories, BeginsName place.2)
    (hloaded : files.loadMembers workspace = .ok loaded) :
    ∀ file ∈ loaded, BeginsName file.module := by
  obtain ⟨listed, hlisted, hloaded⟩ := exists_of_bind_ok hloaded
  cases hloaded
  intro file hfile
  have hfound := List.mem_mergeSort.mp (SourceFile.dropRepeated_subset _ _ hfile)
  obtain ⟨part, hpart, hmem⟩ := List.mem_flatten.mp hfound
  obtain ⟨⟨directory, crate⟩, hplace, hsources⟩ := exists_of_mem_mapM hlisted hpart
  exact beginsName_of_mem_listSources (hcrates _ hplace) hsources file hmem

namespace Command

variable {options : Options}

/-- The crates that the sources belong to: that of files and folders, and those of the workspace. -/
def crates (files : Files) (options : Options) : List String :=
  options.crate ::
    match options.workspace with
    | none => []
    | some _ =>
      let description := (files.readText descriptionFile).toOption.getD ""
      match Workspace.ofDescription? description with
      | some workspace => workspace.directories.map (·.2)
      | none => []

theorem beginsName_of_mem_workspaceSources
    (hcrates : ∀ crate ∈ crates files options, BeginsName crate) {members : List SourceFile}
    (hmembers : workspaceSources files options = .ok members) :
    ∀ file ∈ members, BeginsName file.module := by
  rw [workspaceSources] at hmembers
  split at hmembers
  · cases hmembers
    exact List.forall_mem_nil _
  · next manifest hmanifest =>
      rw [Files.loadWorkspace] at hmembers
      split at hmembers
      · next workspace hworkspace =>
          apply beginsName_of_mem_loadMembers _ hmembers
          intro place hplace
          apply hcrates
          rw [crates, hmanifest]
          simp only [hworkspace]
          exact List.mem_cons_of_mem _ (List.mem_map_of_mem hplace)
      · contradiction

theorem loadSources_of_sources {loaded : List SourceFile}
    (hloaded : sources files options = .ok loaded) : loadSources files options = .ok loaded := by
  rw [sources] at hloaded
  split at hloaded
  · contradiction
  · contradiction
  · next found hfound =>
      cases hloaded
      exact hfound

/-- The modules of all sources begin like names where the crates do. -/
theorem beginsName_of_mem_sources (hcrates : ∀ crate ∈ crates files options, BeginsName crate)
    {loaded : List SourceFile} (hloaded : sources files options = .ok loaded) :
    ∀ file ∈ loaded, BeginsName file.module := by
  have hcrate : BeginsName options.crate := hcrates _ List.mem_cons_self
  obtain ⟨inputs, hinputs, hrest⟩ := exists_of_bind_ok (loadSources_of_sources hloaded)
  obtain ⟨folders, hfolders, hrest⟩ := exists_of_bind_ok hrest
  obtain ⟨members, hmembers, hrest⟩ := exists_of_bind_ok hrest
  cases hrest
  refine List.forall_mem_append.mpr ⟨List.forall_mem_append.mpr ⟨?_, ?_⟩, ?_⟩
  · intro file hfile
    obtain ⟨path, _, hpath⟩ := exists_of_mem_mapM hinputs hfile
    rw [Files.loadFile] at hpath
    split at hpath
    · cases hpath
      exact hcrate
    · contradiction
  · intro file hfile
    obtain ⟨folder, hfolder, hmem⟩ := List.mem_flatten.mp hfile
    obtain ⟨path, _, hpath⟩ := exists_of_mem_mapM hfolders hfolder
    exact beginsName_of_mem_loadFolder hcrate hpath file hmem
  · exact beginsName_of_mem_workspaceSources hcrates hmembers

end Command

/-! ## Entry points and their texts -/

/-- The options for all entry points. -/
def Options.forAll (options : Options) : Options :=
  { options with all := true, entries := [] }

/-- The options for the entry points of some texts. -/
def Options.entering (options : Options) (texts : List String) : Options :=
  { options with all := false, entries := texts }

namespace Command

variable {options : Options}

/-- The entry points that the command finds; none if it cannot load the settings or sources. -/
def scanned (files : Files) (options : Options) : List EntryPoint :=
  match settings files options, sources files options with
  | .ok settings, .ok loaded =>
    let index := SymbolIndex.ofFiles loaded
    entryPoints index.resolver settings.markers index.identities
  | _, _ => []

/-- Texts that are read back name the entry points that they are the texts of. -/
theorem roots_entering {found : List EntryPoint}
    (hread : ∀ entry ∈ found, FunctionId.parse? entry.id.text = some entry.id) :
    roots (options.entering (found.map (·.id.text))) found = roots options.forAll found := by
  simp only [roots, Options.entering, Options.forAll]
  rw [mapM_eq_ok (?_ : List.Forall₂ _ (found.map (·.id.text)) (found.map (·.id)))]
  · simp
  · rw [List.forall₂_map_left_iff, List.forall₂_map_right_iff, List.forall₂_same]
    intro entry hentry
    rw [hread entry hentry]

theorem produce_entering {settings : Settings} {loaded : List SourceFile} {found : List EntryPoint}
    (hfound : entryPoints (SymbolIndex.ofFiles loaded).resolver settings.markers
      (SymbolIndex.ofFiles loaded).identities = found)
    (hread : ∀ entry ∈ found, FunctionId.parse? entry.id.text = some entry.id) :
    produce (options.entering (found.map (·.id.text))) settings loaded =
      produce options.forAll settings loaded := by
  have hroots : roots (options.entering (found.map (·.id.text))) found =
      roots options.forAll found := roots_entering hread
  simp only [produce, hfound, hroots]
  rfl

theorem scanned_eq {settings : Settings} {loaded : List SourceFile}
    (hsettings : Command.settings files options = .ok settings)
    (hloaded : sources files options = .ok loaded) :
    entryPoints (SymbolIndex.ofFiles loaded).resolver settings.markers
      (SymbolIndex.ofFiles loaded).identities = scanned files options := by
  rw [scanned, hsettings, hloaded]

theorem mem_identities_of_mem_scanned {loaded : List SourceFile}
    (hloaded : sources files options = .ok loaded) {entry : EntryPoint}
    (hentry : entry ∈ scanned files options) :
    entry.id ∈ (SymbolIndex.ofFiles loaded).identities := by
  cases hsettings : Command.settings files options with
  | error error =>
      rw [scanned, hsettings] at hentry
      contradiction
  | ok settings =>
      rw [← scanned_eq hsettings hloaded] at hentry
      have hid := (perm_entryPoints _ _ _).mem_iff.mp (List.mem_map_of_mem hentry)
      exact (List.mem_filter.mp hid).1

theorem perform_of_ok {settings : Settings} {loaded : List SourceFile}
    (hsettings : Command.settings files options = .ok settings)
    (hloaded : sources files options = .ok loaded) :
    perform files options = produce options settings loaded := by
  rw [perform, hsettings, hloaded]
  rfl

theorem perform_of_error {error : CommandError}
    (hsettings : settings files options = .error error) : perform files options = .error error := by
  rw [perform, hsettings]
  rfl

/-- Which entry points to discover does not matter to what is loaded. -/
theorem settings_choice (files : Files) (options : Options) (texts : List String) :
    settings files (options.entering texts) = settings files options ∧
      settings files options.forAll = settings files options :=
  ⟨rfl, rfl⟩

theorem sources_choice (files : Files) (options : Options) (texts : List String) :
    sources files (options.entering texts) = sources files options ∧
      sources files options.forAll = sources files options :=
  ⟨rfl, rfl⟩

/-- An identity of the sources is read back from its text exactly if its owner has a front, and all
are where the crates begin like names.  Where those of the entry points that the command finds are
read back, it does the same for their texts as it does for all entry points. -/
theorem perform_entering_scanned (files : Files) (options : Options) (loaded : List SourceFile)
    (hloaded : sources files options = .ok loaded) :
    (∀ id ∈ (SymbolIndex.ofFiles loaded).identities,
      FunctionId.parse? id.text = some id ↔ FunctionId.HasFront id.owner) ∧
    ((∀ crate ∈ crates files options, BeginsName crate) →
      ∀ id ∈ (SymbolIndex.ofFiles loaded).identities, FunctionId.parse? id.text = some id) ∧
    (∀ entry ∈ scanned files options, entry.id ∈ (SymbolIndex.ofFiles loaded).identities) ∧
    ((∀ entry ∈ scanned files options, FunctionId.parse? entry.id.text = some entry.id) →
      roots (options.entering ((scanned files options).map (·.id.text)))
          (scanned files options) = roots options.forAll (scanned files options) ∧
        perform files (options.entering ((scanned files options).map (·.id.text))) =
          perform files options.forAll) := by
  refine ⟨fun id hid => SymbolIndex.parse?_text_iff_of_mem_identities hid, fun hcrates id hid => ?_,
    fun entry hentry => mem_identities_of_mem_scanned hloaded hentry, fun hread => ?_⟩
  · exact SymbolIndex.parse?_text_of_mem_identities (beginsName_of_mem_sources hcrates hloaded) hid
  · refine ⟨roots_entering hread, ?_⟩
    have hentering := settings_choice files options ((scanned files options).map (·.id.text))
    have hsources := sources_choice files options ((scanned files options).map (·.id.text))
    cases hsettings : settings files options with
    | error error =>
        rw [perform_of_error (hentering.1.trans hsettings),
          perform_of_error (hentering.2.trans hsettings)]
    | ok settings =>
        rw [perform_of_ok (hentering.1.trans hsettings) (hsources.1.trans hloaded),
          perform_of_ok (hentering.2.trans hsettings) (hsources.2.trans hloaded)]
        exact produce_entering (scanned_eq hsettings hloaded) hread

/-- A file, and nothing else. -/
def onlyFile (text : String) : Files where
  root := .directory [("f.rs", .file (some text))]

/-- The file as a crate of a name. -/
def inCrate (name : String) : Options where
  inputs := ["f.rs"]
  crateName := some name

theorem readText_onlyFile (text : String) : (onlyFile text).readText "f.rs" = .ok text := rfl

theorem inCrate_sources (text name : String) :
    sources (onlyFile text) (inCrate name) = .ok [⟨name, "f.rs", text⟩] := by
  rw [sources, loadSources]
  simp [inCrate, Files.loadFile, readText_onlyFile, workspaceSources, Options.crate]
  rfl

/-- Two entry points, of which the scanner finds the second first. -/
def marksTwo : SourceFile :=
  ⟨"shaders", "f.rs", "#[vertex_shader] fn g() {} #[fragment_shader] fn f() {}"⟩

theorem scanned_marksTwo : scanned (onlyFile marksTwo.text) (inCrate "shaders") =
    [⟨⟨"shaders", "f"⟩, .fragment⟩, ⟨⟨"shaders", "g"⟩, .vertex⟩] := by
  have hfound : ((SymbolIndex.ofFiles [marksTwo]).functions.map (·.id)).filterMap
      (entryPoint? (SymbolIndex.ofFiles [marksTwo]).resolver ({} : Settings).markers) =
        [⟨⟨"shaders", "g"⟩, .vertex⟩, ⟨⟨"shaders", "f"⟩, .fragment⟩] := by
    decide +kernel
  rw [← scanned_eq rfl (inCrate_sources marksTwo.text "shaders")]
  calc
    entryPoints (SymbolIndex.ofFiles [marksTwo]).resolver ({} : Settings).markers
        (SymbolIndex.ofFiles [marksTwo]).identities =
        entryPoints (SymbolIndex.ofFiles [marksTwo]).resolver ({} : Settings).markers
          ((SymbolIndex.ofFiles [marksTwo]).functions.map (·.id)) :=
      entryPoints_eq_of_perm (List.mergeSort_perm ..)
    _ = [⟨⟨"shaders", "g"⟩, .vertex⟩, ⟨⟨"shaders", "f"⟩, .fragment⟩].mergeSort
        fun left right => (compare left.id right.id).isLE := by
      rw [entryPoints, hfound]
    _ = [⟨⟨"shaders", "f"⟩, .fragment⟩, ⟨⟨"shaders", "g"⟩, .vertex⟩].mergeSort
        fun left right => (compare left.id right.id).isLE :=
      mergeSort_key_eq_of_perm EntryPoint.id (by decide +kernel) (.swap _ _ _)
    _ = [⟨⟨"shaders", "f"⟩, .fragment⟩, ⟨⟨"shaders", "g"⟩, .vertex⟩] :=
      List.mergeSort_of_pairwise (by decide +kernel)

theorem inCrate_shaders_entering :
    sources (onlyFile marksTwo.text) (inCrate "shaders") = .ok [marksTwo] ∧
      (∀ crate ∈ crates (onlyFile marksTwo.text) (inCrate "shaders"), BeginsName crate) ∧
      (scanned (onlyFile marksTwo.text) (inCrate "shaders")).map (·.id.text) =
        ["shaders::f", "shaders::g"] ∧
      perform (onlyFile marksTwo.text)
          ((inCrate "shaders").entering ["shaders::f", "shaders::g"]) =
        perform (onlyFile marksTwo.text) (inCrate "shaders").forAll := by
  have hcrates : ∀ crate ∈ crates (onlyFile marksTwo.text) (inCrate "shaders"), BeginsName crate :=
    List.forall_mem_singleton.mpr
      ⟨'s', ['h', 'a', 'd', 'e', 'r', 's'], rfl, by decide, by decide⟩
  have hsources := inCrate_sources marksTwo.text "shaders"
  obtain ⟨_, hall, hidentities, hsame⟩ :=
    perform_entering_scanned (onlyFile marksTwo.text) (inCrate "shaders") _ hsources
  have htexts : (scanned (onlyFile marksTwo.text) (inCrate "shaders")).map (·.id.text) =
      ["shaders::f", "shaders::g"] := by
    rw [scanned_marksTwo]
    decide +kernel
  rw [htexts] at hsame
  exact ⟨hsources, hcrates, htexts,
    (hsame fun entry hentry => hall hcrates entry.id (hidentities entry hentry)).2⟩

/-- A file with an entry point. -/
def marksF : Files :=
  onlyFile "#[vertex_shader] fn f() {}"

/-- The crate has the empty name, and the text of the entry point is refused. -/
theorem inCrate_empty_refused :
    sources marksF (inCrate "") = .ok [⟨"", "f.rs", "#[vertex_shader] fn f() {}"⟩] ∧
      ⟨"", "f"⟩ ∈ (SymbolIndex.ofFiles
        [⟨"", "f.rs", "#[vertex_shader] fn f() {}"⟩]).identities ∧
      FunctionId.parse? (FunctionId.text ⟨"", "f"⟩) = none ∧
      (scanned marksF (inCrate "")).map (·.id.text) = ["::f"] ∧
      perform marksF ((inCrate "").entering ["::f"]) = .error (.invalidEntry "::f") ∧
      (perform marksF (inCrate "").forAll).toOption.isSome := by
  refine ⟨inCrate_sources "#[vertex_shader] fn f() {}" "", ?_, ?_, ?_, ?_, ?_⟩
  · decide +kernel
  · decide +kernel
  · decide +kernel
  · decide +kernel
  · decide +kernel

end Command

end ShaderCalls
