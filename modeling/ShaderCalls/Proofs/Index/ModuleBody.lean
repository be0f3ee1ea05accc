import ShaderCalls.Index.SymbolIndex
import ShaderCalls.Proofs.Index.QualifiedName

/-!
# Module bodies

The items of a source file are the body of its module, and the items of an inline module are the
body of that module.  Whatever a body declares or imports is in the outline of the files, and every
indexed type has the name of the module around it in front of its own.
-/

namespace ShaderCalls

open Source (Item UseTree)

namespace Outline

/-- The declarations and imports of an outline are among those of another one. -/
structure Within (part whole : Outline) : Prop where
  functions : part.functions ⊆ whole.functions
  types : part.types ⊆ whole.types
  modules : part.modules ⊆ whole.modules
  imports : part.imports ⊆ whole.imports
  globs : part.globs ⊆ whole.globs

namespace Within

variable {part middle whole other : Outline}

theorem refl (outline : Outline) : outline.Within outline :=
  ⟨List.Subset.refl _, List.Subset.refl _, List.Subset.refl _, List.Subset.refl _,
    List.Subset.refl _⟩

theorem trans (hpart : part.Within middle) (hmiddle : middle.Within whole) : part.Within whole :=
  ⟨List.Subset.trans hpart.functions hmiddle.functions,
    List.Subset.trans hpart.types hmiddle.types,
    List.Subset.trans hpart.modules hmiddle.modules,
    List.Subset.trans hpart.imports hmiddle.imports,
    List.Subset.trans hpart.globs hmiddle.globs⟩

theorem append_left (hpart : part.Within whole) : part.Within (whole ++ other) :=
  ⟨List.subset_append_of_subset_left _ hpart.functions,
    List.subset_append_of_subset_left _ hpart.types,
    List.subset_append_of_subset_left _ hpart.modules,
    List.subset_append_of_subset_left _ hpart.imports,
    List.subset_append_of_subset_left _ hpart.globs⟩

theorem append_right (hpart : part.Within whole) : part.Within (other ++ whole) :=
  ⟨List.subset_append_of_subset_right _ hpart.functions,
    List.subset_append_of_subset_right _ hpart.types,
    List.subset_append_of_subset_right _ hpart.modules,
    List.subset_append_of_subset_right _ hpart.imports,
    List.subset_append_of_subset_right _ hpart.globs⟩

end Within

/-- What the body of a module declares, the module itself included. -/
def ofBody (path module : String) (items : List Item) : Outline :=
  ofModule module items ++ ofItems path module (ofModule module items).imports items

theorem within_ofItems {path module : String} {imports : List Import} {item : Item}
    {items : List Item} (hitem : item ∈ items) :
    (ofItem path module imports item).Within (ofItems path module imports items) := by
  induction items with
  | nil => contradiction
  | cons first rest ih =>
      rw [ofItems]
      rcases List.mem_cons.mp hitem with rfl | hrest
      · exact (Within.refl _).append_left
      · exact (ih hrest).append_right

theorem within_ofFiles {file : SourceFile} {files : List SourceFile} (hfile : file ∈ files) :
    (ofFile file).Within (ofFiles files) := by
  induction files with
  | nil => contradiction
  | cons first rest ih =>
      rcases List.mem_cons.mp hfile with rfl | hrest
      · exact (Within.refl _).append_left
      · exact (ih hrest).append_right

end Outline

/-- The items are the body of a module: of a file, or of an inline module in such a body. -/
inductive ModuleBody (files : List SourceFile) (path : String) : String → List Item → Prop
  | file {file : SourceFile} {items : List Item} (hfile : file ∈ files) (hpath : file.path = path)
      (hitems : Item.ofSource? file.text = some items) : ModuleBody files path file.module items
  | inline {module name : String} {items inner : List Item}
      (houter : ModuleBody files path module items) (hinner : .module name (some inner) ∈ items) :
      ModuleBody files path (ModulePath.child module name) inner

namespace ModuleBody

variable {files : List SourceFile} {path module : String} {items : List Item}

theorem within (hbody : ModuleBody files path module items) :
    (Outline.ofBody path module items).Within (Outline.ofFiles files) := by
  induction hbody with
  | @file file items hfile hpath hitems =>
      have hwithin := Outline.within_ofFiles hfile
      simp only [Outline.ofFile, hitems, hpath] at hwithin
      exact hwithin
  | @inline module name items inner _ hinner ih =>
      have hitem : (Outline.ofItem path module (Outline.ofModule module items).imports
          (.module name (some inner))).Within
            (Outline.ofItems path module (Outline.ofModule module items).imports items) :=
        Outline.within_ofItems hinner
      rw [Outline.ofItem] at hitem
      exact hitem.append_right.trans ih

/-- What an item of a body declares is in the outline of the files. -/
theorem within_of_mem (hbody : ModuleBody files path module items) {item : Item}
    (hitem : item ∈ items) :
    (Outline.ofItem path module (Outline.ofModule module items).imports item).Within
      (Outline.ofFiles files) :=
  (Outline.within_ofItems hitem).append_right.trans hbody.within

theorem imports_subset (hbody : ModuleBody files path module items) :
    (Outline.ofModule module items).imports ⊆ (SymbolIndex.ofFiles files).imports :=
  fun _ himport => hbody.within.imports (List.mem_append_left _ himport)

/-- An item that a test finds in a file is in the body of the file's module. -/
theorem exists_of_any (test : Item → Bool) {file : SourceFile} (hfile : file ∈ files)
    (hfound : (Item.ofSource? file.text).any fun items => items.any test) :
    ∃ items, ModuleBody files file.path file.module items ∧ ∃ item ∈ items, test item := by
  obtain ⟨items, hitems, hany⟩ := (Option.any_eq_true ..).mp hfound
  exact ⟨items, .file hfile rfl hitems, List.any_eq_true.mp hany⟩

end ModuleBody

/-! ## Imports of a body -/

/-- The tree of `use first::..::name;`. -/
def Source.UseTree.ofPath (path : List String) (name : String) : UseTree :=
  path.foldr .path (.name name)

/-- Whether a tree is that of `use first::..::name;`. -/
def Source.UseTree.isPath : List String → String → UseTree → Bool
  | [], last, .name written => written == last
  | first :: more, last, .path segment rest => segment == first && isPath more last rest
  | _, _, _ => false

theorem Source.UseTree.eq_of_isPath {path : List String} {name : String} {tree : UseTree}
    (htree : UseTree.isPath path name tree) : tree = UseTree.ofPath path name := by
  fun_induction UseTree.isPath path name tree with
  | case1 last written => simpa [UseTree.ofPath] using htree
  | case2 first more last segment rest ih =>
      rw [Bool.and_eq_true, beq_iff_eq] at htree
      rw [ih htree.2, htree.1]
      rfl
  | case3 => contradiction

/-- Whether an item is `use first::..::name;`. -/
def Source.Item.isUseOf (path : List String) (name : String) : Item → Bool
  | .use tree => UseTree.isPath path name tree
  | _ => false

theorem Source.Item.eq_of_isUseOf {path : List String} {name : String} {item : Item}
    (hitem : Item.isUseOf path name item) : item = .use (.ofPath path name) := by
  cases item with
  | use tree => exact congrArg Item.use (UseTree.eq_of_isPath hitem)
  | _ => contradiction

theorem UseLeaf.ofTree_ofPath (module : String) (above path : List String) {name : String}
    (hname : name ≠ "self") :
    UseLeaf.ofTree module above (UseTree.ofPath path name) =
      [.binding name (ModulePath.relative module (above ++ path ++ [name]))] := by
  induction path generalizing above with
  | nil => simp [UseTree.ofPath, UseLeaf.ofTree, hname]
  | cons segment path ih =>
      rw [UseTree.ofPath, List.foldr_cons, UseLeaf.ofTree, ← UseTree.ofPath, ih]
      simp

theorem ModuleBody.mem_imports {files : List SourceFile} {file module : String} {items : List Item}
    (hbody : ModuleBody files file module items) {path : List String} {name : String}
    (huse : Item.use (UseTree.ofPath path name) ∈ items) (hname : name ≠ "self") :
    ⟨module, name, ModulePath.relative module (path ++ [name])⟩ ∈
      (SymbolIndex.ofFiles files).imports := by
  apply hbody.imports_subset
  have hleaf : UseLeaf.binding name (ModulePath.relative module (path ++ [name])) ∈
      UseLeaf.ofItems module items := by
    refine List.mem_flatMap.mpr ⟨_, huse, ?_⟩
    simp [UseLeaf.ofTree_ofPath module [] path hname]
  exact List.mem_filterMap.mpr ⟨_, hleaf, rfl⟩

/-- A name that a module imports as one path only stands for that path. -/
theorem Import.find?_eq_some {imports : List Import} {module name : String} {path : List String}
    (hmem : ⟨module, name, path⟩ ∈ imports)
    (honce : ∀ found ∈ imports, found.module = module → found.name = name → found.path = path) :
    Import.find? imports module name = some path := by
  rw [Import.find?, Option.map_eq_some_iff]
  cases hfind : imports.reverse.find? fun found => found.module = module && found.name = name with
  | none =>
      have hnone := List.find?_eq_none.mp hfind _ (List.mem_reverse.mpr hmem)
      simp at hnone
  | some found =>
      have hnames := List.find?_some hfind
      simp only [Bool.and_eq_true, decide_eq_true_eq] at hnames
      have hfound := List.mem_reverse.mp (List.mem_of_find?_eq_some hfind)
      exact ⟨found, rfl, honce found hfound hnames.1 hnames.2⟩

theorem Import.find?_eq_none_of_subset {imports all : List Import} {module name : String}
    (hsubset : imports ⊆ all) (hnone : Import.find? all module name = none) :
    Import.find? imports module name = none := by
  rw [Import.find?, Option.map_eq_none_iff, List.find?_eq_none] at hnone ⊢
  intro found hfound
  exact hnone found (List.mem_reverse.mpr (hsubset (List.mem_reverse.mp hfound)))

/-! ## Names of types -/

namespace Outline

/-- The qualified name of each type is its own name in some module. -/
def TypesInModules (outline : Outline) : Prop :=
  ∀ declared ∈ outline.types, ∃ module, declared.qualified = ModulePath.child module declared.name

theorem TypesInModules.append {left right : Outline} (hleft : left.TypesInModules)
    (hright : right.TypesInModules) : (left ++ right).TypesInModules :=
  fun declared hmem => (List.mem_append.mp hmem).elim (hleft declared) (hright declared)

theorem typesInModules_of_nil {outline : Outline} (hnil : outline.types = []) :
    outline.TypesInModules := by
  intro declared hmem
  rw [hnil] at hmem
  contradiction

mutual

theorem typesInModules_ofItem (path module : String) (imports : List Import) :
    ∀ item, (ofItem path module imports item).TypesInModules
  | .function _ => typesInModules_of_nil rfl
  | .implementation (some _) _ => typesInModules_of_nil rfl
  | .implementation none _ => typesInModules_of_nil rfl
  | .type name => by
      intro declared hmem
      rw [List.mem_singleton.mp hmem]
      exact ⟨module, rfl⟩
  | .module name (some items) => by
      rw [ofItem]
      exact (typesInModules_of_nil rfl).append (typesInModules_ofItems path _ _ items)
  | .module _ none => typesInModules_of_nil rfl
  | .use _ => typesInModules_of_nil rfl
  | .other => typesInModules_of_nil rfl

theorem typesInModules_ofItems (path module : String) (imports : List Import) :
    ∀ items, (ofItems path module imports items).TypesInModules
  | [] => typesInModules_of_nil rfl
  | item :: rest => by
      rw [ofItems]
      exact (typesInModules_ofItem path module imports item).append
        (typesInModules_ofItems path module imports rest)

end

theorem typesInModules_ofFiles (files : List SourceFile) : (ofFiles files).TypesInModules := by
  induction files with
  | nil => exact typesInModules_of_nil rfl
  | cons file rest ih =>
      refine TypesInModules.append ?_ ih
      unfold ofFile
      split
      · exact (typesInModules_of_nil rfl).append (typesInModules_ofItems _ _ _ _)
      · exact typesInModules_of_nil rfl

end Outline

end ShaderCalls
