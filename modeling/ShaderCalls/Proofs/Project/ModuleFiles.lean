import ShaderCalls.Index.Resolution
import ShaderCalls.Project.Sources
import ShaderCalls.Proofs.Files.Path
import ShaderCalls.Proofs.Index.FirstDeclared
import ShaderCalls.Proofs.Index.ModuleBody
import ShaderCalls.Proofs.Source.DeclaredNames

/-!
# Files of declared modules

A module that is declared without a body has its body in a file, which stands in the directory of
the module around it or in one of its own.  The loader takes the module of a file from the path,
and the index takes it from the declaration.  Both agree, but for a module that has the name of a
file that stands for the directory it is in.
-/

namespace ShaderCalls

open ModulePath (child)
open ShaderCalls.Path (Component IsEntry components join)
open Source (Item IsIdentifier)

/-! ## Directories of modules -/

/-- A directory holds the files of a module: the root of a crate those of the crate, and an entry of
another such directory those of a module inside. -/
inductive HoldsModule (root crate : String) : String → String → Prop
  | root : HoldsModule root crate root crate
  | entry {directory module name : String} (hdirectory : HoldsModule root crate directory module)
      (hname : IsEntry name) : HoldsModule root crate (join directory name) (child module name)

variable {root crate directory module name : String}

theorem qualified_concat {segments : List String} (hsegments : segments ≠ []) (name : String) :
    Text.qualified (segments ++ [name]) = child (Text.qualified segments) name := by
  rw [Text.qualified_append hsegments (List.cons_ne_nil _ _), Text.qualified_singleton]
  rfl

/-- The names below the root lead to a directory and are the segments of its module. -/
theorem HoldsModule.exists_names (hdirectory : HoldsModule root crate directory module) :
    ∃ names : List String, components directory = components root ++ names.map .named ∧
      module = Text.qualified (crate :: names) := by
  induction hdirectory with
  | root => exact ⟨[], by simp, (Text.qualified_singleton crate).symm⟩
  | @entry directory module name _ hname ih =>
      obtain ⟨names, hnames, hmodule⟩ := ih
      refine ⟨names ++ [name], ?_, ?_⟩
      · rw [Path.components_join directory hname, hnames]
        simp
      · rw [hmodule, ← List.cons_append, qualified_concat (List.cons_ne_nil _ _)]

/-- The names that lead to a source file in a directory, of which the last one may stand for the
directory. -/
theorem modulesTo_join {names : List String}
    (hnames : components directory = components root ++ names.map .named) (hname : IsEntry name) :
    modulesTo root (join directory (name ++ ".rs")) =
      if name ∈ directoryModules then names else names ++ [name] := by
  have hfile : name ++ ".rs" = name ++ "." ++ "rs" := by
    rw [String.append_assoc]
    rfl
  have hcomponents : components (join directory (name ++ ".rs")) =
      components root ++ (names.map .named ++ [.named (name ++ ".rs")]) := by
    have hentry : IsEntry (name ++ ".rs") := by
      rw [hfile]
      exact hname.addExtension (by decide) (by decide)
    rw [Path.components_join directory hentry, hnames, List.append_assoc]
  have hstem : (Component.named (name ++ ".rs")).withoutExtension = .named name := by
    rw [hfile]
    exact hname.withoutExtension (by decide)
  have htexts : (names.map Component.named ++ [Component.named name]).map Component.text =
      names ++ [name] := by
    have hinverse : Component.text ∘ Component.named = id := rfl
    rw [List.map_append, List.map_map, hinverse, List.map_id]
    rfl
  rw [modulesTo, Path.below_of_components hcomponents, Path.withoutExtension_concat, hstem, htexts]
  simp

/-- The module of a source file in a directory. -/
theorem modulePath_join (hdirectory : HoldsModule root crate directory module)
    (hname : IsEntry name) :
    modulePath root (join directory (name ++ ".rs")) crate =
      if name ∈ directoryModules then module else child module name := by
  obtain ⟨names, hnames, rfl⟩ := hdirectory.exists_names
  rw [modulePath, modulesTo_join hnames hname]
  split
  · rfl
  · rw [← List.cons_append, qualified_concat (List.cons_ne_nil _ _)]

/-! ## Loaded files -/

mutual

/-- The sources found at a path are the modules that their paths tell. -/
theorem FileNode.module_of_mem_sources (root crate : String) : ∀ (path : String) (node : FileNode)
    {found : List SourceFile}, node.sources root crate path = .ok found →
      ∀ file ∈ found, file.module = modulePath root file.path crate
  | path, .directory entries, found, hfound => by
      rw [FileNode.sources] at hfound
      split at hfound
      · cases hfound
        exact List.forall_mem_nil _
      · exact module_of_mem_entrySources root crate path entries hfound
  | path, .file (some text), found, hfound => by
      rw [FileNode.sources] at hfound
      split at hfound
      · cases hfound
        exact List.forall_mem_singleton.mpr rfl
      · cases hfound
        exact List.forall_mem_nil _
  | path, .file none, found, hfound => by
      rw [FileNode.sources] at hfound
      split at hfound
      · contradiction
      · cases hfound
        exact List.forall_mem_nil _

theorem FileNode.module_of_mem_entrySources (root crate : String) : ∀ (directory : String)
    (entries : List (String × FileNode)) {found : List SourceFile},
      FileNode.entrySources root crate directory entries = .ok found →
        ∀ file ∈ found, file.module = modulePath root file.path crate
  | _, [], found, hfound => by
      cases hfound
      exact List.forall_mem_nil _
  | path, (name, node) :: rest, found, hfound => by
      rw [FileNode.entrySources] at hfound
      obtain ⟨first, hfirst, hfound⟩ := exists_of_bind_ok hfound
      obtain ⟨others, hothers, hfound⟩ := exists_of_bind_ok hfound
      cases hfound
      exact List.forall_mem_append.mpr
        ⟨FileNode.module_of_mem_sources root crate _ node hfirst,
          FileNode.module_of_mem_entrySources root crate path rest hothers⟩

end

theorem module_of_mem_listSources {files : Files} {listed : List SourceFile}
    (hlisted : files.listSources root crate = .ok listed) :
    ∀ file ∈ listed, file.module = modulePath root file.path crate := by
  unfold Files.listSources at hlisted
  split at hlisted
  · cases hlisted
    exact List.forall_mem_nil _
  · split at hlisted
    · cases hlisted
      exact List.forall_mem_nil _
    · contradiction
    · exact FileNode.module_of_mem_sources root crate root _ hlisted

/-! ## Declared modules -/

/-- A raw identifier begins with a mark that its module's files do not bear. -/
def IsRaw (name : String) : Prop :=
  ['r', '#'] <+: name.toList

instance (name : String) : Decidable (IsRaw name) :=
  inferInstanceAs (Decidable (['r', '#'] <+: name.toList))

/-- The name of the files of a module: that of the module, without the mark of a raw identifier. -/
def fileName (name : String) : String :=
  match name.toList with
  | 'r' :: '#' :: rest => String.ofList rest
  | _ => name

theorem fileName_of_not_isRaw (hplain : ¬ IsRaw name) : fileName name = name := by
  unfold fileName
  split
  · next rest hchars => exact absurd ⟨rest, hchars.symm⟩ hplain
  · rfl

theorem fileName_of_isRaw {rest : List Char} (hraw : name.toList = ['r', '#'] ++ rest) :
    fileName name = String.ofList rest := by
  unfold fileName
  rw [hraw]
  rfl

theorem fileName_ne_of_isRaw (hraw : IsRaw name) : fileName name ≠ name := by
  obtain ⟨rest, hchars⟩ := hraw
  intro hsame
  have hlength : rest.length = 2 + rest.length := by
    calc
      rest.length = name.toList.length := by
        rw [← hsame, fileName_of_isRaw hchars.symm, String.toList_ofList]
      _ = 2 + rest.length := by rw [← hchars, List.length_append]; rfl
  omega

theorem isIdentifier_fileName (hname : IsIdentifier name) : IsIdentifier (fileName name) := by
  by_cases hraw : IsRaw name
  · obtain ⟨mark, first, more, hchars, rfl | rfl, hfirst, hmore⟩ := hname
    · obtain ⟨rest, hrest⟩ := hraw
      rw [hchars] at hrest
      obtain ⟨rfl, rfl⟩ := List.cons.inj hrest
      have hmark : ¬ Text.continuesIdentifier '#' := by
        decide
      exact absurd (hmore '#' List.mem_cons_self) hmark
    · rw [fileName_of_isRaw hchars]
      exact ⟨[], first, more, String.toList_ofList, Or.inl rfl, hfirst, hmore⟩
  · rwa [fileName_of_not_isRaw hraw]

theorem isEntry_of_isIdentifier (hname : IsIdentifier name) : IsEntry name where
  no_slash := hname.notMem (by decide) (by decide) (by decide)
  component := by
    have hdot : '.' ∉ name.toList := hname.notMem (by decide) (by decide) (by decide)
    have hchars := hname.ne_nil
    unfold Component.ofPart?
    split <;> simp_all

/-- The items of a body have identifiers for names. -/
theorem ModuleBody.names {files : List SourceFile} {path : String} {items : List Item}
    (hbody : ModuleBody files path module items) : ∀ item ∈ items, item.Names IsIdentifier := by
  induction hbody with
  | file _ _ hitems => exact Item.names_of_ofSource? hitems
  | inline _ hinner ih =>
      cases ih _ hinner with
      | module _ hitems => exact hitems

namespace SymbolIndex

/-- A call through a module inside the calling one, where no type has its name. -/
theorem callee?_of_hasModule {index : SymbolIndex} {scope : Scope}
    (hmodule : index.hasModule (child scope.module name))
    (htype : index.typeNamed? scope name = none) (hself : name ≠ "Self") (function : String) :
    index.callee? scope (.path [name, function]) = some ⟨child scope.module name, function⟩ := by
  simp [callee?, owner?, hself, htype, hmodule]

/-- A function of a file is declared in the module of the file. -/
theorem isSome_function?_of_file {files : List SourceFile} {file : SourceFile}
    (hfile : file ∈ files) {items : List Item} (hitems : Item.ofSource? file.text = some items)
    {declared : Source.Function} (hdeclared : .function declared ∈ items) :
    ((ofFiles files).function? ⟨file.module, declared.name⟩).isSome := by
  have hwithin := (ModuleBody.file hfile rfl hitems).within_of_mem hdeclared
  exact isSome_function?_of_mem (hwithin.functions List.mem_cons_self)

/-- A module is declared without a body in the body of a module, whose files stand in a directory.
The file of its name in a directory of its own is the declared module.  So is the file beside it,
unless the name is one with which a file stands for its directory; then that file is the module
around.  The index knows the declared module, and there it has the functions of a file that is
it, so that calls through the name of the module find them. -/
theorem loaded_module_eq_child {files : Files} {root crate : String} {listed : List SourceFile}
    (hlisted : files.listSources root crate = .ok listed) {directory module : String}
    (hdirectory : HoldsModule root crate directory module) {loaded : List SourceFile}
    {path : String} {items : List Item} (hbody : ModuleBody loaded path module items)
    {name : String} (hdeclared : .module name none ∈ items) (hplain : ¬ IsRaw name)
    {file : SourceFile} (hfile : file ∈ listed) (hloaded : file ∈ loaded) :
    child module name ∈ (ofFiles loaded).modules ∧
    (file.path = join (join directory (fileName name)) "mod.rs" →
      file.module = child module name) ∧
    (file.path = join directory (fileName name ++ ".rs") →
      file.module = if name ∈ directoryModules then module else child module name) ∧
    (file.module = child module name → ∀ inner, Item.ofSource? file.text = some inner →
      ∀ declared, .function declared ∈ inner →
        ((ofFiles loaded).function? ⟨child module name, declared.name⟩).isSome ∧
        ∀ owner, (ofFiles loaded).typeNamed? ⟨module, owner⟩ name = none → name ≠ "Self" →
          (ofFiles loaded).callee? ⟨module, owner⟩ (.path [name, declared.name]) =
            some ⟨child module name, declared.name⟩) := by
  have hname : IsEntry name := by
    cases hbody.names _ hdeclared with
    | external hname => exact isEntry_of_isIdentifier hname
  have hmodules : child module name ∈ (ofFiles loaded).modules :=
    (hbody.within_of_mem hdeclared).modules List.mem_cons_self
  have hmodule := module_of_mem_listSources hlisted file hfile
  rw [fileName_of_not_isRaw hplain]
  refine ⟨hmodules, fun hpath => ?_, fun hpath => ?_, fun hsame inner hinner declared hmem => ?_⟩
  · have hmod : IsEntry "mod" := ⟨by decide, rfl⟩
    have hjoin := modulePath_join (hdirectory.entry hname) hmod
    rw [hmodule, hpath]
    exact hjoin
  · rw [hmodule, hpath, modulePath_join hdirectory hname]
  · rw [← hsame]
    refine ⟨isSome_function?_of_file hloaded hinner hmem, fun owner htype hself => ?_⟩
    rw [hsame]
    exact callee?_of_hasModule (List.contains_iff_mem.mpr hmodules) htype hself _

/-- The mark of a raw identifier is kept by the declared module, and the module of its file has
none.  So they differ. -/
theorem module_ne_child_of_isRaw {files : Files} {root crate : String} {listed : List SourceFile}
    (hlisted : files.listSources root crate = .ok listed) {directory module : String}
    (hdirectory : HoldsModule root crate directory module) {name : String}
    (hname : IsIdentifier name) (hraw : IsRaw name) {file : SourceFile} (hfile : file ∈ listed)
    (hpath : file.path = join (join directory (fileName name)) "mod.rs" ∨
      file.path = join directory (fileName name ++ ".rs")) :
    file.module ≠ child module name := by
  have hentry : IsEntry (fileName name) := isEntry_of_isIdentifier (isIdentifier_fileName hname)
  have hother : child module (fileName name) ≠ child module name := by
    intro hsame
    exact fileName_ne_of_isRaw hraw (String.append_right_inj _ |>.mp hsame)
  have hmod : IsEntry "mod" := ⟨by decide, rfl⟩
  rw [module_of_mem_listSources hlisted file hfile]
  rcases hpath with hpath | hpath
  · have hjoin := modulePath_join (hdirectory.entry hentry) hmod
    rw [hpath]
    exact hjoin ▸ hother
  · rw [hpath, modulePath_join hdirectory hentry]
    split
    · exact (ModulePath.child_ne_module module name).symm
    · exact hother

/-- Whether an item declares a module of a name without a body. -/
def declaresModule (name : String) : Item → Bool
  | .module declared none => declared == name
  | _ => false

theorem exists_of_declaresModule {files : List SourceFile} {file : SourceFile}
    (hfile : file ∈ files) (hfound : (Item.ofSource? file.text).any fun items =>
      items.any (declaresModule name)) :
    ∃ items, ModuleBody files file.path file.module items ∧ .module name none ∈ items := by
  obtain ⟨items, hbody, item, hitem, htest⟩ :=
    ModuleBody.exists_of_any (declaresModule name) hfile hfound
  cases item with
  | module declared inner =>
      cases inner with
      | none => exact ⟨items, hbody, beq_iff_eq.mp htest ▸ hitem⟩
      | some inner => contradiction
  | _ => contradiction

/-- A crate with a module that declares another one, whose file stands beside its own. -/
def rendering (name : String) : Files where
  root := .directory [("src", .directory [("lib.rs", .file (some "mod render;")),
    ("render", .directory [("mod.rs", .file (some ("mod " ++ name ++ ";"))),
      (name ++ ".rs", .file (some "pub fn draw() {}"))])])]

theorem holdsModule_render : HoldsModule "src" "shaders" "src/render" "shaders::render" := by
  have hname : IsEntry "render" := ⟨by decide, rfl⟩
  exact .entry .root hname

def rendersBrush : List SourceFile :=
  [⟨"shaders", "src/lib.rs", "mod render;"⟩,
    ⟨"shaders::render", "src/render/mod.rs", "mod brush;"⟩,
    ⟨"shaders::render::brush", "src/render/brush.rs", "pub fn draw() {}"⟩]

theorem rendersBrush_finds_draw :
    ∃ items file, (rendering "brush").listSources "src" "shaders" = .ok rendersBrush ∧
      HoldsModule "src" "shaders" "src/render" "shaders::render" ∧
      ModuleBody rendersBrush "src/render/mod.rs" "shaders::render" items ∧
      .module "brush" none ∈ items ∧ ¬ IsRaw "brush" ∧ file ∈ rendersBrush ∧
      file.path = join "src/render" (fileName "brush" ++ ".rs") ∧
      file.module = child "shaders::render" "brush" ∧
      ((ofFiles rendersBrush).function? ⟨"shaders::render::brush", "draw"⟩).isSome := by
  have hlisted : (rendering "brush").listSources "src" "shaders" = .ok rendersBrush := rfl
  have houter : (⟨"shaders::render", "src/render/mod.rs", "mod brush;"⟩ : SourceFile) ∈
      rendersBrush := by
    decide
  have hfile : (⟨"shaders::render::brush", "src/render/brush.rs", "pub fn draw() {}"⟩ :
      SourceFile) ∈ rendersBrush := by
    decide
  have hfound : (Item.ofSource? "mod brush;").any fun items =>
      items.any (declaresModule "brush") := by
    decide +kernel
  obtain ⟨items, hbody, hdeclared⟩ := exists_of_declaresModule houter hfound
  have hplain : ¬ IsRaw "brush" := by
    decide
  have hpath : "src/render/brush.rs" = join "src/render" (fileName "brush" ++ ".rs") := by
    decide
  obtain ⟨_, _, hbeside, _⟩ := loaded_module_eq_child hlisted holdsModule_render hbody hdeclared
    hplain hfile hfile
  exact ⟨items, _, hlisted, holdsModule_render, hbody, hdeclared, hplain, hfile, hpath,
    hbeside hpath, by decide +kernel⟩

def rendersMain : List SourceFile :=
  [⟨"shaders", "src/lib.rs", "mod render;"⟩,
    ⟨"shaders::render", "src/render/mod.rs", "mod main;"⟩,
    ⟨"shaders::render", "src/render/main.rs", "pub fn draw() {}"⟩]

/-- The file of a declared module is read as the module around it. -/
theorem rendersMain_misses_main :
    (rendering "main").listSources "src" "shaders" = .ok rendersMain ∧
      HoldsModule "src" "shaders" "src/render" "shaders::render" ∧
      (∃ items, ModuleBody rendersMain "src/render/mod.rs" "shaders::render" items ∧
        .module "main" none ∈ items) ∧
      (∃ file ∈ rendersMain, file.path = join "src/render" "main.rs" ∧
        file.module ≠ child "shaders::render" "main") ∧
      child "shaders::render" "main" ∈ (ofFiles rendersMain).modules ∧
      ((ofFiles rendersMain).function? ⟨"shaders::render::main", "draw"⟩).isNone := by
  have houter : (⟨"shaders::render", "src/render/mod.rs", "mod main;"⟩ : SourceFile) ∈
      rendersMain := by
    decide
  have hfile : (⟨"shaders::render", "src/render/main.rs", "pub fn draw() {}"⟩ : SourceFile) ∈
      rendersMain := by
    decide
  have hfound : (Item.ofSource? "mod main;").any fun items =>
      items.any (declaresModule "main") := by
    decide +kernel
  obtain ⟨items, hbody, hdeclared⟩ := exists_of_declaresModule houter hfound
  exact ⟨rfl, holdsModule_render, ⟨items, hbody, hdeclared⟩,
    ⟨_, hfile, by decide, by decide⟩, by decide +kernel, by decide +kernel⟩

end SymbolIndex

end ShaderCalls
