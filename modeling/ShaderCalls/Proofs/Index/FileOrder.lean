import ShaderCalls.Proofs.Discovery.Locality
import ShaderCalls.Proofs.Index.FirstDeclared
import ShaderCalls.Proofs.Ordered

/-!
# The order of the files

The tables of an index hold the entries of the files, in the order of the files or, where the files
are read at the same time, in any order that keeps those of one file in theirs.  Where no two files
declare one identity or import one name of a module, this order is all that a permutation of the
files or another interleaving changes.  No query sees it: a query looks for an entry of a key, asks
whether there is one, or whether there is exactly one, or sorts what it finds.
-/

namespace ShaderCalls

namespace Outline

/-- The tables hold the entries of the files, those of one file in their order.  Each table has an
order of its own. -/
structure FilledFrom (files : List SourceFile) (outline : Outline) : Prop where
  functions : Interleaves (files.map fun file => (ofFile file).functions) outline.functions
  types : Interleaves (files.map fun file => (ofFile file).types) outline.types
  modules : Interleaves (files.map fun file => (ofFile file).modules) outline.modules
  imports : Interleaves (files.map fun file => (ofFile file).imports) outline.imports
  globs : Interleaves (files.map fun file => (ofFile file).globs) outline.globs

theorem filledFrom_ofFiles (files : List SourceFile) : FilledFrom files (ofFiles files) := by
  rw [ofFiles_eq_flatMap]
  exact ⟨.flatten _, .flatten _, .flatten _, .flatten _, .flatten _⟩

end Outline

namespace SymbolIndex

/-! ## Indices with the same entries -/

/-- Two indices have the same entries, maybe in different orders, and look up functions and imports
alike. -/
structure Alike (left right : SymbolIndex) : Prop where
  functions : left.functions.Perm right.functions
  types : left.types.Perm right.types
  modules : left.modules.Perm right.modules
  globs : left.globs.Perm right.globs
  function? : ∀ id, left.function? id = right.function? id
  imported : ∀ module name, left.import? module name = right.import? module name

namespace Alike

variable {left right : SymbolIndex}

/-! ### Queries of one table -/

theorem identities (halike : Alike left right) : left.identities = right.identities :=
  ascending_eq_of_perm (halike.functions.map _)

theorem hasModule (halike : Alike left right) (module : String) :
    left.hasModule module = right.hasModule module :=
  halike.modules.contains_eq

theorem hasType (halike : Alike left right) (qualified : String) :
    left.hasType qualified = right.hasType qualified :=
  halike.types.any_eq

theorem globsOf (halike : Alike left right) (module : String) :
    left.globsOf module = right.globsOf module :=
  ascendingDistinct_eq_of_perm ((halike.globs.filter _).map _)

theorem typesNamed (halike : Alike left right) (name : String) :
    (left.typesNamed name).Perm (right.typesNamed name) :=
  (halike.types.filter _).map _

theorem ownersOf (halike : Alike left right) (method : String) :
    (left.ownersOf method).Perm (right.ownersOf method) :=
  halike.functions.filterMap _

/-! ### Names -/

theorem fullPath (halike : Alike left right) (module : String) (path : List String) :
    left.fullPath module path = right.fullPath module path := by
  cases path with
  | nil => rfl
  | cons first rest =>
      simp only [SymbolIndex.fullPath, halike.imported, halike.hasModule, halike.hasType]

theorem globCandidates (halike : Alike left right) (module name : String) :
    left.globCandidates module name = right.globCandidates module name := by
  simp only [SymbolIndex.globCandidates, halike.globsOf, halike.fullPath]

theorem typeNamed? (halike : Alike left right) (scope : Scope) (name : String) :
    left.typeNamed? scope name = right.typeNamed? scope name := by
  have hhasType : left.hasType = right.hasType := funext halike.hasType
  simp only [SymbolIndex.typeNamed?, halike.imported, hhasType, halike.globCandidates]
  rcases eq_or_exists_of_perm (halike.typesNamed name) with
    hsame | ⟨⟨_, _, _, hleft⟩, _, _, _, hright⟩
  · rw [hsame]
  · rw [hleft, hright]

theorem freeFunction? (halike : Alike left right) (module name : String) :
    left.freeFunction? module name = right.freeFunction? module name := by
  simp only [SymbolIndex.freeFunction?, halike.function?, halike.globCandidates]

theorem owner? (halike : Alike left right) (scope : Scope) (path : List String) :
    left.owner? scope path = right.owner? scope path := by
  match path with
  | [] => simp only [SymbolIndex.owner?, halike.fullPath]
  | [name] => simp only [SymbolIndex.owner?, halike.typeNamed?, halike.hasModule]
  | _ :: _ :: _ => simp only [SymbolIndex.owner?, halike.fullPath]

theorem callee? (halike : Alike left right) (scope : Scope) (target : Source.CallTarget) :
    left.callee? scope target = right.callee? scope target := by
  match target with
  | .path [] => rfl
  | .path [name] => simp only [SymbolIndex.callee?, halike.imported, halike.freeFunction?]
  | .path (_ :: _ :: _) => simp only [SymbolIndex.callee?, halike.owner?]
  | .selfMethod _ => rfl
  | .method name =>
      rcases eq_or_exists_of_perm (halike.ownersOf name) with
        hsame | ⟨⟨_, _, _, hleft⟩, _, _, _, hright⟩
      · simp only [SymbolIndex.callee?, hsame]
      · simp only [SymbolIndex.callee?, hleft, hright]
  | .unsupported => rfl

theorem typeName (halike : Alike left right) (scope : Scope) (type : Source.TypeExpr) :
    left.typeName scope type = right.typeName scope type := by
  simp only [SymbolIndex.typeName, halike.typeNamed?, halike.fullPath, halike.hasType]

/-! ### Declarations -/

theorem declarationOf (halike : Alike left right) (function : DeclaredFunction) :
    left.declarationOf function = right.declarationOf function := by
  have htypeName : left.typeName function.scope = right.typeName function.scope :=
    funext (halike.typeName function.scope)
  simp only [SymbolIndex.declarationOf, halike.callee?, htypeName]

theorem declaration? (halike : Alike left right) :
    left.resolver.declaration? = right.resolver.declaration? := by
  funext id
  change (left.function? id).map left.declarationOf = (right.function? id).map right.declarationOf
  rw [halike.function?, funext halike.declarationOf]

theorem discover (halike : Alike left right) (markers : Markers) :
    discover left.resolver markers = discover right.resolver markers := by
  funext root
  have hagree : AgreeBelow left.resolver.declaration? right.resolver.declaration? root :=
    fun id _ => congrFun halike.declaration?.symm id
  exact (discover_congr markers (Builder.build_congr hagree)).symm

theorem entryPoints (halike : Alike left right) (markers : Markers)
    (candidates : List FunctionId) :
    entryPoints left.resolver markers candidates =
      entryPoints right.resolver markers candidates := by
  have hentry : entryPoint? left.resolver markers = entryPoint? right.resolver markers := by
    funext id
    rw [entryPoint?, entryPoint?, halike.declaration?]
  rw [ShaderCalls.entryPoints, ShaderCalls.entryPoints, hentry]

end Alike

/-! ## Permuted files -/

section

variable {files permuted : List SourceFile} {left right : Outline}

theorem function?_eq_of_perm (hids : Apart SourceFile.ids files) (hperm : files.Perm permuted)
    (hleft : left.FilledFrom files) (hright : right.FilledFrom permuted) (id : FunctionId) :
    (ofOutline left).function? id = (ofOutline right).function? id := by
  calc
    (ofOutline left).function? id = left.functions.find? (·.id = id) := function?_ofOutline left id
    _ = right.functions.find? (·.id = id) :=
      hleft.functions.find?_eq_of_perm hright.functions hperm (eq_of_declares hids id)
    _ = (ofOutline right).function? id := (function?_ofOutline right id).symm

theorem functions_perm_of_perm (hids : Apart SourceFile.ids files) (hperm : files.Perm permuted)
    (hleft : left.FilledFrom files) (hright : right.FilledFrom permuted) :
    (ofOutline left).functions.Perm (ofOutline right).functions := by
  have hnodup := nodup_ids_ofOutline left
  have hnodup' := nodup_ids_ofOutline right
  rw [List.perm_ext_iff_of_nodup hnodup.of_map hnodup'.of_map]
  intro function
  calc
    function ∈ (ofOutline left).functions ↔
        (ofOutline left).function? function.id = some function := by
      simp [function?_eq_some_iff_mem hnodup]
    _ ↔ (ofOutline right).function? function.id = some function := by
      rw [function?_eq_of_perm hids hperm hleft hright]
    _ ↔ function ∈ (ofOutline right).functions := by
      simp [function?_eq_some_iff_mem hnodup']

/-- Of two imports of one name the later one counts, so the tables are searched backwards. -/
theorem import?_eq_of_perm (haliases : Apart SourceFile.aliases files)
    (hperm : files.Perm permuted) (hleft : left.FilledFrom files)
    (hright : right.FilledFrom permuted) (module name : String) :
    (ofOutline left).import? module name = (ofOutline right).import? module name := by
  change Import.find? left.imports module name = Import.find? right.imports module name
  have hbackwards := hleft.imports.reverse
  have hbackwards' := hright.imports.reverse
  rw [List.map_map] at hbackwards hbackwards'
  rw [Import.find?, Import.find?]
  congr 1
  apply hbackwards.find?_eq_of_perm hbackwards' hperm
  intro file hfile other hother found hfound hit hhit hnames hnames'
  simp only [Bool.and_eq_true, decide_eq_true_eq] at hnames hnames'
  rw [Function.comp_apply, List.mem_reverse] at hfound hhit
  apply haliases file hfile other hother (module, name)
  · exact List.mem_map.mpr ⟨found, hfound, Prod.ext hnames.1 hnames.2⟩
  · exact List.mem_map.mpr ⟨hit, hhit, Prod.ext hnames'.1 hnames'.2⟩

theorem alike_of_perm (hids : Apart SourceFile.ids files)
    (haliases : Apart SourceFile.aliases files) (hperm : files.Perm permuted)
    (hleft : left.FilledFrom files) (hright : right.FilledFrom permuted) :
    Alike (ofOutline left) (ofOutline right) where
  functions := functions_perm_of_perm hids hperm hleft hright
  types := hleft.types.perm_of_perm hright.types hperm
  modules := hleft.modules.perm_of_perm hright.modules hperm
  globs := hleft.globs.perm_of_perm hright.globs hperm
  function? := function?_eq_of_perm hids hperm hleft hright
  imported := import?_eq_of_perm haliases hperm hleft hright

end

/-- Two indices answer every query alike. -/
structure SameAnswers (left right : SymbolIndex) : Prop where
  identities : left.identities = right.identities
  count : left.functions.length = right.functions.length
  /-- The function of an identity with its location and all else that is written in it. -/
  function? : ∀ id, left.function? id = right.function? id
  callee? : ∀ scope target, left.callee? scope target = right.callee? scope target
  typeName : ∀ scope type, left.typeName scope type = right.typeName scope type
  declaration? : ∀ id, left.resolver.declaration? id = right.resolver.declaration? id
  entryPoints : ∀ markers, entryPoints left.resolver markers left.identities =
    entryPoints right.resolver markers right.identities
  discover : ∀ markers root,
    discover left.resolver markers root = discover right.resolver markers root
  discoverAll : ∀ markers roots,
    discoverAll left.resolver markers roots = discoverAll right.resolver markers roots
  discoverEach : ∀ markers roots,
    discoverEach left.resolver markers roots = discoverEach right.resolver markers roots

theorem Alike.sameAnswers {left right : SymbolIndex} (halike : Alike left right) :
    SameAnswers left right where
  identities := halike.identities
  count := halike.functions.length_eq
  function? := halike.function?
  callee? := halike.callee?
  typeName := halike.typeName
  declaration? := congrFun halike.declaration?
  entryPoints := by
    intro markers
    rw [halike.identities]
    exact halike.entryPoints markers _
  discover := fun markers => congrFun (halike.discover markers)
  discoverAll := by
    intro markers roots
    rw [ShaderCalls.discoverAll, ShaderCalls.discoverAll, halike.discover]
  discoverEach := by
    intro markers roots
    rw [ShaderCalls.discoverEach, ShaderCalls.discoverEach, halike.discover]

/-- The order of the files does not matter where no two of them declare one identity or import one
name of a module; nor does it matter in which order their entries come into the tables. -/
theorem sameAnswers_of_perm (files permuted : List SourceFile)
    (hids : Apart SourceFile.ids files) (haliases : Apart SourceFile.aliases files)
    (hperm : files.Perm permuted) :
    SameAnswers (ofFiles files) (ofFiles permuted) ∧
      ∀ left right : Outline, left.FilledFrom files → right.FilledFrom permuted →
        SameAnswers (ofOutline left) (ofOutline right) := by
  have hany : ∀ left right : Outline, left.FilledFrom files → right.FilledFrom permuted →
      SameAnswers (ofOutline left) (ofOutline right) := fun _ _ hleft hright =>
    (alike_of_perm hids haliases hperm hleft hright).sameAnswers
  exact ⟨hany _ _ (Outline.filledFrom_ofFiles files) (Outline.filledFrom_ofFiles permuted), hany⟩

/-- Two files that each declare a type of one name and a method of one name. -/
def splitsScene : List SourceFile :=
  [⟨"shaders::model", "model.rs",
    "use crate::math; struct Mesh; impl Mesh { fn area() {} } enum Side {}"⟩,
    ⟨"shaders::math", "math.rs", "use crate::model; struct Mesh; impl Mesh { fn area() {} }"⟩]

/-- The types of one file around those of the other, and all else file by file. -/
def mixesScene : Outline :=
  { Outline.ofFiles splitsScene.reverse with
    types := [⟨"Mesh", "shaders::model::Mesh"⟩, ⟨"Mesh", "shaders::math::Mesh"⟩,
      ⟨"Side", "shaders::model::Side"⟩] }

theorem mixesScene_filledFrom : mixesScene.FilledFrom splitsScene.reverse := by
  have hfiles := Outline.filledFrom_ofFiles splitsScene.reverse
  have htypes : (splitsScene.reverse.map fun file => (Outline.ofFile file).types) =
      [[⟨"Mesh", "shaders::math::Mesh"⟩],
        [⟨"Mesh", "shaders::model::Mesh"⟩, ⟨"Side", "shaders::model::Side"⟩]] := by
    decide +kernel
  refine ⟨hfiles.functions, ?_, hfiles.modules, hfiles.imports, hfiles.globs⟩
  rw [htypes]
  exact .cons 1 rfl (.cons 0 rfl (.cons 1 rfl (.nil (by simp))))

theorem splitsScene_reversed :
    Apart SourceFile.ids splitsScene ∧ Apart SourceFile.aliases splitsScene ∧
      splitsScene.Perm splitsScene.reverse ∧
      SameAnswers (ofFiles splitsScene) (ofFiles splitsScene.reverse) ∧
      SameAnswers (ofFiles splitsScene) (ofOutline mixesScene) := by
  have hids : Apart SourceFile.ids splitsScene := by
    decide +kernel
  have haliases : Apart SourceFile.aliases splitsScene := by
    decide +kernel
  have hperm : splitsScene.Perm splitsScene.reverse := (List.reverse_perm splitsScene).symm
  obtain ⟨hsame, hany⟩ := sameAnswers_of_perm splitsScene splitsScene.reverse hids haliases hperm
  exact ⟨hids, haliases, hperm, hsame,
    hany _ _ (Outline.filledFrom_ofFiles splitsScene) mixesScene_filledFrom⟩

end SymbolIndex

end ShaderCalls
