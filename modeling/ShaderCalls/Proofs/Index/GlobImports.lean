import ShaderCalls.Proofs.Index.FirstDeclared
import ShaderCalls.Proofs.Index.FreeFunctions
import ShaderCalls.Proofs.Index.KeywordPaths
import ShaderCalls.Proofs.Index.ModuleBody
import ShaderCalls.Proofs.Index.Owners
import ShaderCalls.Proofs.Lists

/-!
# Functions of glob imports

A glob import `use path::*;` names a module, and a call of a single name that the calling module
neither imports nor declares names the function of that name in the one module that has it.  The
index reads the path twice, from the module when it is recorded, and again when the name is looked
up.  The second reading takes the path of a module of the crate for a path as written, so an import
or an inner module with the name of the crate leads it astray.  It also takes types for modules.
-/

namespace ShaderCalls

open ModulePath Text
open Source (Item UseTree)

/-! ## Glob imports of a body -/

mutual

/-- The paths of which a `use` tree imports all names, as they are written. -/
def Source.UseTree.globs : UseTree → List (List String)
  | .path segment rest => rest.globs.map (segment :: ·)
  | .name _ => []
  | .rename _ _ => []
  | .glob => [[]]
  | .group trees => Source.UseTree.globsOfAll trees

/-- The paths of several `use` trees. -/
def Source.UseTree.globsOfAll : List UseTree → List (List String)
  | [] => []
  | tree :: rest => tree.globs ++ Source.UseTree.globsOfAll rest

end

mutual

theorem UseLeaf.glob_mem_ofTree_iff (module : String) (above path : List String) :
    ∀ tree : UseTree, .glob path ∈ ofTree module above tree ↔
      ∃ written ∈ tree.globs, path = relative module (above ++ written)
  | .path segment rest => by
      rw [ofTree, glob_mem_ofTree_iff module (above ++ [segment]) path rest]
      simp [UseTree.globs]
  | .name name => by
      rw [ofTree]
      split
      · split <;> simp [UseTree.globs]
      · simp [UseTree.globs]
  | .rename _ _ => by simp [ofTree, UseTree.globs]
  | .glob => by simp [ofTree, UseTree.globs]
  | .group trees => by
      rw [ofTree, glob_mem_ofTrees_iff module above path trees]
      rfl

theorem UseLeaf.glob_mem_ofTrees_iff (module : String) (above path : List String) :
    ∀ trees : List UseTree, .glob path ∈ ofTrees module above trees ↔
      ∃ written ∈ UseTree.globsOfAll trees, path = relative module (above ++ written)
  | [] => by simp [ofTrees, UseTree.globsOfAll]
  | tree :: rest => by
      rw [ofTrees, List.mem_append, glob_mem_ofTree_iff module above path tree,
        glob_mem_ofTrees_iff module above path rest]
      simp [UseTree.globsOfAll, or_and_right, exists_or]

end

/-- A module has the declaration `use path::*;`, by itself or in a group. -/
def WritesGlob (files : List SourceFile) (module : String) (path : List String) : Prop :=
  ∃ file items tree, ModuleBody files file module items ∧ Item.use tree ∈ items ∧
    path ∈ tree.globs

/-- Whether an item is a `use` declaration with a glob import of a path. -/
def Source.Item.writesGlob (path : List String) : Item → Bool
  | .use tree => path ∈ tree.globs
  | _ => false

theorem WritesGlob.of_any {files : List SourceFile} {file : SourceFile} (hfile : file ∈ files)
    {path : List String} (hfound : (Item.ofSource? file.text).any fun items =>
      items.any (Item.writesGlob path)) : WritesGlob files file.module path := by
  obtain ⟨items, hbody, item, hitem, hglob⟩ := ModuleBody.exists_of_any _ hfile hfound
  match item, hglob with
  | .use tree, hglob => exact ⟨_, items, tree, hbody, hitem, of_decide_eq_true hglob⟩

namespace Outline

/-- The glob imports of an outline are among the declarations of bodies. -/
def GlobsInBodies (files : List SourceFile) (outline : Outline) : Prop :=
  ∀ glob ∈ outline.globs, ∃ file items, ModuleBody files file glob.module items ∧
    glob ∈ (ofModule glob.module items).globs

section

variable {files : List SourceFile} {left right outline : Outline}

theorem GlobsInBodies.append (hleft : left.GlobsInBodies files)
    (hright : right.GlobsInBodies files) : (left ++ right).GlobsInBodies files :=
  fun glob hmem => (List.mem_append.mp hmem).elim (hleft glob) (hright glob)

theorem globsInBodies_of_nil (hnil : outline.globs = []) : outline.GlobsInBodies files := by
  intro glob hmem
  rw [hnil] at hmem
  contradiction

theorem mem_globs_ofModule_iff {module : String} {items : List Item} {glob : GlobImport} :
    glob ∈ (ofModule module items).globs ↔ glob.module = module ∧
      ∃ tree, Item.use tree ∈ items ∧ .glob glob.path ∈ UseLeaf.ofTree module [] tree := by
  have hleaf : .glob glob.path ∈ UseLeaf.ofItems module items ↔
      ∃ tree, Item.use tree ∈ items ∧ .glob glob.path ∈ UseLeaf.ofTree module [] tree := by
    rw [UseLeaf.ofItems, List.mem_flatMap]
    constructor
    · rintro ⟨item, hitem, hleaf⟩
      cases item with
      | use tree => exact ⟨tree, hitem, hleaf⟩
      | _ => contradiction
    · rintro ⟨tree, htree, hleaf⟩
      exact ⟨_, htree, hleaf⟩
  rw [← hleaf]
  change glob ∈ GlobImport.ofLeaves module (UseLeaf.ofItems module items) ↔ _
  rw [GlobImport.ofLeaves, List.mem_filterMap]
  constructor
  · rintro ⟨leaf, hmem, hglob⟩
    cases leaf with
    | binding => contradiction
    | glob path =>
        cases hglob
        exact ⟨rfl, hmem⟩
  · rintro ⟨rfl, hmem⟩
    exact ⟨_, hmem, rfl⟩

theorem globsInBodies_ofModule {file module : String} {items : List Item}
    (hbody : ModuleBody files file module items) : (ofModule module items).GlobsInBodies files := by
  intro glob hmem
  obtain ⟨rfl, _⟩ := mem_globs_ofModule_iff.mp hmem
  exact ⟨file, items, hbody, hmem⟩

mutual

theorem globsInBodies_ofItem {file module : String} {items : List Item}
    (hbody : ModuleBody files file module items) (imports : List Import) :
    ∀ item ∈ items, (ofItem file module imports item).GlobsInBodies files
  | .function _, _ => globsInBodies_of_nil rfl
  | .implementation (some _) _, _ => globsInBodies_of_nil rfl
  | .implementation none _, _ => globsInBodies_of_nil rfl
  | .type _, _ => globsInBodies_of_nil rfl
  | .module _ (some inner), hinner => by
      have hinline := ModuleBody.inline hbody hinner
      rw [ofItem]
      exact (globsInBodies_ofModule hinline).append
        (globsInBodies_ofItems hinline _ inner (List.Subset.refl inner))
  | .module _ none, _ => globsInBodies_of_nil rfl
  | .use _, _ => globsInBodies_of_nil rfl
  | .other, _ => globsInBodies_of_nil rfl

theorem globsInBodies_ofItems {file module : String} {items : List Item}
    (hbody : ModuleBody files file module items) (imports : List Import) :
    ∀ part ⊆ items, (ofItems file module imports part).GlobsInBodies files
  | [], _ => globsInBodies_of_nil rfl
  | item :: rest, hpart => by
      rw [ofItems]
      exact (globsInBodies_ofItem hbody imports item (hpart List.mem_cons_self)).append
        (globsInBodies_ofItems hbody imports rest fun _ hmem => hpart (List.mem_cons_of_mem _ hmem))

end

theorem globsInBodies_ofFile {file : SourceFile} (hfile : file ∈ files) :
    (ofFile file).GlobsInBodies files := by
  unfold ofFile
  split
  · next items hitems =>
      have hbody := ModuleBody.file hfile rfl hitems
      exact (globsInBodies_ofModule hbody).append
        (globsInBodies_ofItems hbody _ items (List.Subset.refl items))
  · exact globsInBodies_of_nil rfl

theorem globsInBodies_ofFiles {part : List SourceFile} (hpart : part ⊆ files) :
    (ofFiles part).GlobsInBodies files := by
  induction part with
  | nil => exact globsInBodies_of_nil rfl
  | cons file rest ih =>
      exact (globsInBodies_ofFile (hpart List.mem_cons_self)).append
        (ih fun _ hmem => hpart (List.mem_cons_of_mem _ hmem))

end

end Outline

/-- The recorded glob imports of a module are the written ones, each read from the module. -/
theorem mem_globs_iff {files : List SourceFile} {module : String} {path : List String} :
    ⟨module, path⟩ ∈ (SymbolIndex.ofFiles files).globs ↔
      ∃ written, WritesGlob files module written ∧ path = relative module written := by
  constructor
  · intro hglob
    obtain ⟨file, items, hbody, hmem⟩ :=
      Outline.globsInBodies_ofFiles (List.Subset.refl files) _ hglob
    obtain ⟨_, tree, htree, hleaf⟩ := Outline.mem_globs_ofModule_iff.mp hmem
    obtain ⟨written, hwritten, hpath⟩ := (UseLeaf.glob_mem_ofTree_iff _ _ _ tree).mp hleaf
    exact ⟨written, ⟨file, items, tree, hbody, htree, hwritten⟩, hpath⟩
  · rintro ⟨written, ⟨file, items, tree, hbody, htree, hwritten⟩, rfl⟩
    apply hbody.within.globs
    refine List.mem_append_left _ (Outline.mem_globs_ofModule_iff.mpr ⟨rfl, tree, htree, ?_⟩)
    exact (UseLeaf.glob_mem_ofTree_iff _ _ _ tree).mpr ⟨written, hwritten, rfl⟩

/-! ## The choice among several functions -/

namespace SymbolIndex

/-- Two different functions are found. -/
def Several (Found : FunctionId → Prop) : Prop :=
  ∃ left right, Found left ∧ Found right ∧ left ≠ right

/-- What a call names by the functions that are found for it: the only one, nothing if there are
several, and `here` if there is none. -/
inductive Chosen (here : FunctionId) (Found : FunctionId → Prop) : Option FunctionId → Prop
  | one {id : FunctionId} (hfound : Found id) (honly : ∀ other, Found other → other = id) :
      Chosen here Found (some id)
  | several (hseveral : Several Found) : Chosen here Found none
  | none (hnone : ∀ id, ¬ Found id) : Chosen here Found (some here)

theorem chosen_of_nodup {here : FunctionId} {Found : FunctionId → Prop} {found : List FunctionId}
    (hnodup : found.Nodup) (hmem : ∀ id, id ∈ found ↔ Found id) :
    Chosen here Found (match Choice.ofList found with
      | .one id => some id
      | .several => none
      | .none => some here) := by
  match found with
  | [] => exact .none fun id hfound => by simpa using (hmem id).mpr hfound
  | [id] =>
      refine .one ((hmem id).mp (List.mem_singleton_self id)) fun other hother => ?_
      exact List.mem_singleton.mp ((hmem other).mpr hother)
  | left :: right :: rest =>
      refine .several ⟨left, right, (hmem left).mp (by simp), (hmem right).mp (by simp), ?_⟩
      rintro rfl
      simp at hnodup

/-- Two ways to find functions lead to the same choice exactly if both find the same functions or
both find several. -/
theorem Chosen.congr_iff {here : FunctionId} {Found Other : FunctionId → Prop}
    {result : Option FunctionId} (hchosen : Chosen here Found result) (hhere : ¬ Found here)
    (hother : ¬ Other here) :
    Chosen here Other result ↔ (∀ id, Other id ↔ Found id) ∨ (Several Other ∧ Several Found) := by
  constructor
  · intro hsame
    cases hchosen with
    | @one id hfound honly =>
        left
        cases hsame with
        | one hfound' honly' =>
            intro other
            constructor
            · intro h
              rw [honly' other h]
              exact hfound
            · intro h
              rw [honly other h]
              exact hfound'
        | none => exact absurd hfound hhere
    | several hseveral =>
        right
        cases hsame with
        | several hseveral' => exact ⟨hseveral', hseveral⟩
    | none hnone =>
        left
        cases hsame with
        | one hfound' => exact absurd hfound' hother
        | none hnone' =>
            intro other
            exact iff_of_false (hnone' other) (hnone other)
  · rintro (hsame | ⟨hseveral', hseveral⟩)
    · obtain rfl : Other = Found := funext fun id => propext (hsame id)
      exact hchosen
    · cases hchosen with
      | one _ honly =>
          obtain ⟨left, right, hleft, hright, hne⟩ := hseveral
          exact absurd ((honly left hleft).trans (honly right hright).symm) hne
      | several => exact .several hseveral'
      | none hnone =>
          obtain ⟨left, _, hleft, _⟩ := hseveral
          exact absurd hleft (hnone left)

/-! ## Functions that glob imports bring in -/

/-- The module that a written path stands for in a module: one that begins with a keyword is read
from the module, and any other by the imports and inner modules of the module, or else as it is
written. -/
def moduleNamed (index : SymbolIndex) (module : String) (path : List String) : String :=
  match path with
  | [] => ""
  | first :: rest =>
    if isKeyword first then qualified (relative module path)
    else
      match index.import? module first with
      | some imported => qualified (imported ++ rest)
      | none =>
        if index.hasModule (child module first) then qualified (segments module ++ path)
        else qualified path

/-- A glob import of a module brings in a function of the module that its path names. -/
def BringsIn (files : List SourceFile) (module name : String) (id : FunctionId) : Prop :=
  ∃ path, WritesGlob files module path ∧ id = ⟨(ofFiles files).moduleNamed module path, name⟩ ∧
    ∃ function, (ofFiles files).function? id = some function ∧ function.scope.owner = none

/-- The owner that the path of a glob import stands for when it is read twice. -/
def globOwner (files : List SourceFile) (module : String) (path : List String) : String :=
  qualified ((ofFiles files).fullPath module (relative module path))

/-- A declared function is found through a glob import whose path is read twice. -/
def FindsByGlob (files : List SourceFile) (module name : String) (id : FunctionId) : Prop :=
  ∃ path, WritesGlob files module path ∧ id = ⟨globOwner files module path, name⟩ ∧
    ((ofFiles files).function? id).isSome

/-- The text of an identity stands for no other declared function, and for this one if it is
declared. -/
def TextNames (index : SymbolIndex) (id : FunctionId) : Prop :=
  ∀ declared, (index.function? declared).isSome →
    (FunctionId.parse? id.text = some declared ↔ declared = id)

theorem textNames_of_parse? {index : SymbolIndex} {id : FunctionId}
    (hparse : FunctionId.parse? id.text = some id) : TextNames index id := by
  intro declared _
  rw [hparse, Option.some_inj]
  exact eq_comm

variable {files : List SourceFile} {module name : String}

/-- A glob import brings in a declared function where no function belongs to a type. -/
theorem bringsIn_of_free {path : List String} {named : String}
    (hwritten : WritesGlob files module path)
    (hnamed : (ofFiles files).moduleNamed module path = named)
    (hdeclared : ⟨named, name⟩ ∈ (ofFiles files).functions.map (·.id))
    (hfree : ∀ function ∈ (ofFiles files).functions, function.scope.owner = none) :
    BringsIn files module name ⟨named, name⟩ := by
  rw [← isSome_function?_iff] at hdeclared
  obtain ⟨function, hfunction⟩ := Option.isSome_iff_exists.mp hdeclared
  exact ⟨path, hwritten, by rw [hnamed], function, hfunction,
    hfree function (mem_functions_of_function? hfunction)⟩

theorem nodup_globCandidates (index : SymbolIndex) (module name : String) :
    (index.globCandidates module name).Nodup :=
  nodup_eraseDups _

theorem mem_globCandidates_ofFiles {candidate : String} :
    candidate ∈ (ofFiles files).globCandidates module name ↔
      ∃ path, WritesGlob files module path ∧
        candidate = FunctionId.text ⟨globOwner files module path, name⟩ := by
  rw [mem_globCandidates_iff]
  constructor
  · rintro ⟨path, hglob, rfl⟩
    obtain ⟨written, hwritten, rfl⟩ := mem_globs_iff.mp hglob
    exact ⟨written, hwritten, rfl⟩
  · rintro ⟨written, hwritten, rfl⟩
    exact ⟨_, mem_globs_iff.mpr ⟨written, hwritten, rfl⟩, rfl⟩

/-- The function that a single name stands for which the module does not declare. -/
theorem chosen_freeFunction? (hundeclared : (ofFiles files).function? ⟨module, name⟩ = none)
    (htexts : ∀ path, WritesGlob files module path →
      TextNames (ofFiles files) ⟨globOwner files module path, name⟩) :
    Chosen ⟨module, name⟩ (FindsByGlob files module name)
      ((ofFiles files).freeFunction? module name) := by
  rw [freeFunction?, if_neg (by simp [hundeclared])]
  apply chosen_of_nodup
  -- Candidates are texts, so two of them that stand for one function have to be the same text.
  · rw [List.filter_filterMap, List.Nodup, List.pairwise_filterMap]
    refine (nodup_globCandidates _ module name).imp_of_mem ?_
    intro left right hleft hright hne id hid other hother hsame
    subst hsame
    rw [Option.filter_eq_some_iff] at hid hother
    obtain ⟨leftPath, hleftPath, rfl⟩ := mem_globCandidates_ofFiles.mp hleft
    obtain ⟨rightPath, hrightPath, rfl⟩ := mem_globCandidates_ofFiles.mp hright
    have hleftId := (htexts leftPath hleftPath id hid.2).mp hid.1
    have hrightId := (htexts rightPath hrightPath id hid.2).mp hother.1
    exact hne (congrArg FunctionId.text (hleftId.symm.trans hrightId))
  · intro id
    rw [List.mem_filter, List.mem_filterMap]
    constructor
    · rintro ⟨⟨candidate, hcandidate, hread⟩, hdeclared⟩
      obtain ⟨path, hpath, rfl⟩ := mem_globCandidates_ofFiles.mp hcandidate
      exact ⟨path, hpath, (htexts path hpath id hdeclared).mp hread, hdeclared⟩
    · rintro ⟨path, hpath, rfl, hdeclared⟩
      exact ⟨⟨_, mem_globCandidates_ofFiles.mpr ⟨path, hpath, rfl⟩,
        (htexts path hpath _ hdeclared).mpr rfl⟩, hdeclared⟩

/-! ## Paths that are read twice -/

theorem exists_climb {root : String} (inner path : List String) :
    ∃ rest, climb (root :: inner) path = root :: rest := by
  induction path generalizing inner with
  | nil => exact ⟨inner, by simp [climb]⟩
  | cons segment path ih =>
      by_cases hsuper : segment = "super"
      · subst hsuper
        rw [climb]
        split
        · next hlong =>
            obtain ⟨second, more, rfl⟩ := List.exists_cons_of_ne_nil (l := inner) (by
              rintro rfl
              simp at hlong)
            exact ih _
        · exact ih inner
      · exact ⟨inner ++ segment :: path, by simp [climb, hsuper]⟩

/-- A path that begins with a keyword stands for one in the crate of the module. -/
theorem exists_relative_keyword {root first : String} {inner : List String}
    (hroot : segments module = root :: inner) (rest : List String) (hfirst : isKeyword first) :
    ∃ more, relative module (first :: rest) = root :: more := by
  rw [relative, hroot]
  rcases isKeyword_cases hfirst with rfl | rfl | rfl
  · exact ⟨rest, rfl⟩
  · exact ⟨inner ++ rest, rfl⟩
  · exact exists_climb inner ("super" :: rest)

/-- The glob imports of a module are not misread: nothing in the module is called like the crate,
no path goes through a type of the module, and no path leads to a method of the name. -/
structure PlainGlobs (files : List SourceFile) (module name : String) : Prop where
  root_free : ∀ root inner, segments module = root :: inner →
    isKeyword root = false ∧ (ofFiles files).import? module root = none ∧
      ¬ ((ofFiles files).hasModule (child module root) ∨
        (ofFiles files).hasType (child module root))
  no_type : ∀ first rest, WritesGlob files module (first :: rest) →
    (ofFiles files).hasType (child module first) = false
  no_method : ∀ path function, WritesGlob files module path →
    (ofFiles files).function? ⟨globOwner files module path, name⟩ = some function →
      function.scope.owner = none

theorem PlainGlobs.globOwner_eq (hplain : PlainGlobs files module name) {path : List String}
    (hpath : WritesGlob files module path) :
    globOwner files module path = (ofFiles files).moduleNamed module path := by
  cases path with
  | nil => rfl
  | cons first rest =>
      cases hfirst : isKeyword first with
      | true =>
          obtain ⟨root, inner, hroot⟩ := List.exists_cons_of_ne_nil (segments_ne_nil module)
          obtain ⟨more, hmore⟩ := exists_relative_keyword hroot rest hfirst
          obtain ⟨hname, himport, hinner⟩ := hplain.root_free root inner hroot
          rw [globOwner, hmore, fullPath_of_unknown _ more hname himport hinner, moduleNamed,
            if_pos hfirst, hmore]
      | false =>
          have htype := hplain.no_type first rest hpath
          rw [globOwner, relative_of_not_keyword module hfirst]
          cases himport : (ofFiles files).import? module first with
          | some imported => simp [moduleNamed, fullPath, hfirst, himport]
          | none =>
              cases hinner : (ofFiles files).hasModule (child module first) <;>
                simp [moduleNamed, fullPath, hfirst, himport, hinner, htype]

theorem PlainGlobs.bringsIn_iff (hplain : PlainGlobs files module name) (id : FunctionId) :
    BringsIn files module name id ↔ FindsByGlob files module name id := by
  constructor
  · rintro ⟨path, hpath, rfl, function, hfunction, _⟩
    rw [← hplain.globOwner_eq hpath] at hfunction ⊢
    exact ⟨path, hpath, rfl, by rw [hfunction]; rfl⟩
  · rintro ⟨path, hpath, rfl, hdeclared⟩
    obtain ⟨function, hfunction⟩ := Option.isSome_iff_exists.mp hdeclared
    refine ⟨path, hpath, by rw [hplain.globOwner_eq hpath], function, hfunction, ?_⟩
    exact hplain.no_method path function hpath hfunction

/-- A call of a single name that the module neither imports nor declares names what the glob imports
of the module bring in exactly if the same functions are found when their paths are read twice, or
several are in both cases.  In particular it does so where the paths are not misread. -/
theorem callee?_globbed_iff (files : List SourceFile) (scope : Scope) (name : String)
    (himport : (ofFiles files).import? scope.module name = none)
    (hundeclared : (ofFiles files).function? ⟨scope.module, name⟩ = none)
    (htexts : ∀ path, WritesGlob files scope.module path →
      TextNames (ofFiles files) ⟨globOwner files scope.module path, name⟩) :
    (Chosen ⟨scope.module, name⟩ (BringsIn files scope.module name)
        ((ofFiles files).callee? scope (.path [name])) ↔
      (∀ id, BringsIn files scope.module name id ↔ FindsByGlob files scope.module name id) ∨
        (Several (BringsIn files scope.module name) ∧
          Several (FindsByGlob files scope.module name))) ∧
    (PlainGlobs files scope.module name →
      Chosen ⟨scope.module, name⟩ (BringsIn files scope.module name)
        ((ofFiles files).callee? scope (.path [name]))) := by
  have hchosen := chosen_freeFunction? hundeclared htexts
  have hcallee : (ofFiles files).callee? scope (.path [name]) =
      (ofFiles files).freeFunction? scope.module name :=
    callee?_of_not_imported fun path hpath => by simp [himport] at hpath
  rw [← hcallee] at hchosen
  have hbrings : ¬ BringsIn files scope.module name ⟨scope.module, name⟩ := by
    rintro ⟨_, _, _, function, hfunction, _⟩
    simp [hundeclared] at hfunction
  have hfinds : ¬ FindsByGlob files scope.module name ⟨scope.module, name⟩ := by
    rintro ⟨_, _, _, hdeclared⟩
    simp [hundeclared] at hdeclared
  have hiff := hchosen.congr_iff hfinds hbrings
  exact ⟨hiff, fun hplain => hiff.mpr (Or.inl hplain.bringsIn_iff)⟩

/-! ### A module that two glob imports name -/

def globsMath : List SourceFile :=
  [⟨"shaders", "shaders.rs",
    "mod math { pub fn lerp() {} } use crate::math::*; use self::math::*; fn f() { lerp(); }"⟩]

theorem globsMath_index :
    (ofFiles globsMath).functions.map (·.id) = [⟨"shaders::math", "lerp"⟩, ⟨"shaders", "f"⟩] ∧
    (∀ function ∈ (ofFiles globsMath).functions, function.scope.owner = none) ∧
    (ofFiles globsMath).types = [] ∧
    (ofFiles globsMath).modules = ["shaders", "shaders::math"] ∧
    (ofFiles globsMath).imports = [] ∧
    (ofFiles globsMath).globs =
      [⟨"shaders", ["shaders", "math"]⟩, ⟨"shaders", ["shaders", "math"]⟩] := by
  decide +kernel

theorem globsMath_plainGlobs : PlainGlobs globsMath "shaders" "lerp" where
  root_free := by
    intro root inner hroot
    have hsegments : segments "shaders" = ["shaders"] := by
      decide +kernel
    rw [hsegments] at hroot
    cases hroot
    obtain ⟨_, _, htypes, hmodules, himports, _⟩ := globsMath_index
    rw [import?, hasModule, hasType, htypes, hmodules, himports]
    decide
  no_type := by
    intro first rest _
    obtain ⟨_, _, htypes, _⟩ := globsMath_index
    rw [hasType, htypes]
    rfl
  no_method := by
    intro path function _ hfunction
    exact globsMath_index.2.1 function (mem_functions_of_function? hfunction)

theorem globsMath_globOwner {path : List String} (hpath : WritesGlob globsMath "shaders" path) :
    globOwner globsMath "shaders" path = "shaders::math" := by
  obtain ⟨_, _, htypes, hmodules, himports, hglobs⟩ := globsMath_index
  have hglob := mem_globs_iff.mpr ⟨path, hpath, rfl⟩
  rw [hglobs] at hglob
  have hrelative : relative "shaders" path = ["shaders", "math"] := by
    simpa using hglob
  rw [globOwner, hrelative, fullPath_of_unknown]
  · decide +kernel
  · decide
  · rw [import?, himports]
    rfl
  · rw [hasModule, hasType, htypes, hmodules]
    decide

theorem globsMath_brings_lerp :
    (ofFiles globsMath).import? "shaders" "lerp" = none ∧
      (ofFiles globsMath).function? ⟨"shaders", "lerp"⟩ = none ∧
      (∀ path, WritesGlob globsMath "shaders" path →
        TextNames (ofFiles globsMath) ⟨globOwner globsMath "shaders" path, "lerp"⟩) ∧
      BringsIn globsMath "shaders" "lerp" ⟨"shaders::math", "lerp"⟩ ∧
      Chosen ⟨"shaders", "lerp"⟩ (BringsIn globsMath "shaders" "lerp")
        ((ofFiles globsMath).callee? ⟨"shaders", none⟩ (.path ["lerp"])) := by
  obtain ⟨hfunctions, _, _, _, himports, hglobs⟩ := globsMath_index
  have himport : (ofFiles globsMath).import? "shaders" "lerp" = none := by
    rw [import?, himports]
    rfl
  have hundeclared : (ofFiles globsMath).function? ⟨"shaders", "lerp"⟩ = none := by
    rw [← Option.not_isSome_iff_eq_none, isSome_function?_iff, hfunctions]
    decide
  have htexts : ∀ path, WritesGlob globsMath "shaders" path →
      TextNames (ofFiles globsMath) ⟨globOwner globsMath "shaders" path, "lerp"⟩ := by
    intro path hpath
    rw [globsMath_globOwner hpath]
    exact textNames_of_parse? (by decide +kernel)
  have hbrings : BringsIn globsMath "shaders" "lerp" ⟨"shaders::math", "lerp"⟩ := by
    have hglob : ⟨"shaders", ["shaders", "math"]⟩ ∈ (ofFiles globsMath).globs := by
      rw [hglobs]
      exact List.mem_cons_self
    obtain ⟨path, hpath, _⟩ := mem_globs_iff.mp hglob
    rw [globsMath_plainGlobs.bringsIn_iff]
    refine ⟨path, hpath, by rw [globsMath_globOwner hpath], ?_⟩
    rw [isSome_function?_iff, hfunctions]
    decide
  exact ⟨himport, hundeclared, htexts, hbrings,
    (callee?_globbed_iff globsMath ⟨"shaders", none⟩ "lerp" himport hundeclared htexts).2
      globsMath_plainGlobs⟩

/-! ### A module that has the name of the crate -/

/-- The glob import names a module beside it. -/
def globsBesideShaders : List SourceFile :=
  [⟨"shaders", "shaders.rs",
    "mod shaders {} mod math { pub fn lerp() {} } use crate::math::*; fn f() { lerp(); }"⟩]

theorem globsBesideShaders_index :
    (ofFiles globsBesideShaders).functions.map (·.id) =
      [⟨"shaders::math", "lerp"⟩, ⟨"shaders", "f"⟩] ∧
    (∀ function ∈ (ofFiles globsBesideShaders).functions, function.scope.owner = none) ∧
    (ofFiles globsBesideShaders).import? "shaders" "lerp" = none ∧
    (ofFiles globsBesideShaders).callee? ⟨"shaders", none⟩ (.path ["lerp"]) =
      some ⟨"shaders", "lerp"⟩ ∧
    (ofFiles globsBesideShaders).moduleNamed "shaders" ["crate", "math"] = "shaders::math" := by
  decide +kernel

theorem globsBesideShaders_brings_lerp :
    BringsIn globsBesideShaders "shaders" "lerp" ⟨"shaders::math", "lerp"⟩ := by
  obtain ⟨hfunctions, hfree, _, _, hnamed⟩ := globsBesideShaders_index
  have hwritten : WritesGlob globsBesideShaders "shaders" ["crate", "math"] :=
    WritesGlob.of_any (List.mem_singleton_self _) (by decide +kernel)
  refine bringsIn_of_free hwritten hnamed ?_ hfree
  rw [hfunctions]
  exact List.mem_cons_self

/-- The call does not find the function that the glob import brings in. -/
theorem globsBesideShaders_misses_lerp :
    (ofFiles globsBesideShaders).import? "shaders" "lerp" = none ∧
      (ofFiles globsBesideShaders).function? ⟨"shaders", "lerp"⟩ = none ∧
      (ofFiles globsBesideShaders).callee? ⟨"shaders", none⟩ (.path ["lerp"]) =
        some ⟨"shaders", "lerp"⟩ ∧
      ¬ Chosen ⟨"shaders", "lerp"⟩ (BringsIn globsBesideShaders "shaders" "lerp")
        ((ofFiles globsBesideShaders).callee? ⟨"shaders", none⟩ (.path ["lerp"])) := by
  obtain ⟨hfunctions, _, himport, hcallee, _⟩ := globsBesideShaders_index
  have hundeclared : (ofFiles globsBesideShaders).function? ⟨"shaders", "lerp"⟩ = none := by
    rw [← Option.not_isSome_iff_eq_none, isSome_function?_iff, hfunctions]
    decide
  refine ⟨himport, hundeclared, hcallee, ?_⟩
  rw [hcallee]
  intro hchosen
  cases hchosen with
  | one _ honly => exact absurd (honly _ globsBesideShaders_brings_lerp) (by decide)
  | none hnone => exact hnone _ globsBesideShaders_brings_lerp

end SymbolIndex

end ShaderCalls
