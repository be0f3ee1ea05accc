import ShaderCalls.Proofs.Index.FirstDeclared
import ShaderCalls.Proofs.Index.ModuleBody
import ShaderCalls.Proofs.Index.Owners

/-!
# Implemented types

The methods of an `impl` block belong to the type that the block names.  The block reads the name by
the imports beside it and takes any other single name for a type of its module; a call reads the
same name by the whole index.  This module says when both read it alike, so that a call finds the
method that the block declares.
-/

namespace ShaderCalls

open ModulePath Text
open Source (Item)

variable {files : List SourceFile}

/-! ## Declared methods -/

/-- A module has an `impl` block for a type as written, and the function is one of its methods. -/
inductive DeclaresMethod (files : List SourceFile) (module : String) (type : List String) :
    DeclaredFunction → Prop
  | method {path : String} {items : List Item} {methods : List Source.Function}
      {function : Source.Function} (hbody : ModuleBody files path module items)
      (hitem : .implementation (some type) methods ∈ items) (hfunction : function ∈ methods) :
      DeclaresMethod files module type (.ofFunction path
        ⟨module, some (Outline.implementedType module (Outline.ofModule module items).imports type)⟩
        function)

/-- Whether an item is an `impl` block for a type with a method of a name. -/
def Source.Item.implementsMethod (type : List String) (name : String) : Item → Bool
  | .implementation (some written) methods => written == type && methods.any (·.name == name)
  | _ => false

theorem DeclaresMethod.exists_of_any {file : SourceFile} (hfile : file ∈ files)
    {type : List String} {name : String}
    (hfound : (Item.ofSource? file.text).any fun items =>
      items.any (Item.implementsMethod type name)) :
    ∃ declared, DeclaresMethod files file.module type declared ∧ declared.id.name = name := by
  obtain ⟨items, hbody, item, hitem, hmethod⟩ := ModuleBody.exists_of_any _ hfile hfound
  match item, hmethod with
  | .implementation (some written) methods, hmethod =>
      rw [Item.implementsMethod, Bool.and_eq_true, beq_iff_eq] at hmethod
      obtain ⟨rfl, hany⟩ := hmethod
      obtain ⟨function, hfunction, hname⟩ := List.any_eq_true.mp hany
      exact ⟨_, .method hbody hitem hfunction, eq_of_beq hname⟩

theorem DeclaresMethod.mem_functions {module : String} {type : List String}
    {declared : DeclaredFunction} (hdeclared : DeclaresMethod files module type declared) :
    declared ∈ (Outline.ofFiles files).functions := by
  obtain ⟨hbody, hitem, hfunction⟩ := hdeclared
  apply (hbody.within_of_mem hitem).functions
  rw [Outline.ofItem]
  exact List.mem_map_of_mem hfunction

/-- A name that the module imports nowhere is taken for a type of the module. -/
theorem DeclaresMethod.owner_of_name {module name : String} {declared : DeclaredFunction}
    (hdeclared : DeclaresMethod files module [name] declared)
    (himport : (SymbolIndex.ofFiles files).import? module name = none) :
    declared.id.owner = child module name := by
  obtain ⟨hbody, hitem, hfunction⟩ := hdeclared
  have hbeside := Import.find?_eq_none_of_subset hbody.imports_subset himport
  simp [DeclaredFunction.ofFunction, Outline.implementedType, hbeside]

theorem DeclaresMethod.owner_of_path {module first second : String} {rest : List String}
    {declared : DeclaredFunction}
    (hdeclared : DeclaresMethod files module (first :: second :: rest) declared) :
    declared.id.owner = qualified (relative module (first :: second :: rest)) := by
  obtain ⟨hbody, hitem, hfunction⟩ := hdeclared
  rfl

/-! ## Reading a type -/

namespace SymbolIndex

variable {index : SymbolIndex} {scope : Scope} {name owner : String}

/-- A name stands for a type without an import only if the type is indexed. -/
theorem hasType_of_typeNamed? {type : String} (hname : name ≠ "Self")
    (himport : index.import? scope.module name = none)
    (htype : index.typeNamed? scope name = some type) : index.hasType type := by
  cases foundType_of_typeNamed? hname htype with
  | imported hsome => simp [himport] at hsome
  | here _ hindexed => exact hindexed
  | globbed _ _ hindexed => exact hindexed
  | only _ _ hmem _ => exact List.any_eq_true.mpr ⟨_, hmem, beq_self_eq_true _⟩

/-- A call reads a type, as it is written in an `impl` block, as the owner of the block's methods.
A single name is imported as the owner, or it is a type of the module, or a module inside it that
shares no type's name.  A path begins with a keyword, or with a name that is imported as itself, or
with one that the index knows nothing about. -/
inductive ReadsAs (index : SymbolIndex) (scope : Scope) (owner : String) : List String → Prop
  | imported {name : String} {path : List String}
      (himport : index.import? scope.module name = some path) (howner : qualified path = owner) :
      ReadsAs index scope owner [name]
  | declared {name : String} (himport : index.import? scope.module name = none)
      (htype : index.hasType (child scope.module name)) : ReadsAs index scope owner [name]
  | inner {name : String} (himport : index.import? scope.module name = none)
      (htype : index.typeNamed? scope name = none)
      (hmodule : index.hasModule (child scope.module name)) : ReadsAs index scope owner [name]
  | keyword {first second : String} {rest : List String} (hfirst : isKeyword first) :
      ReadsAs index scope owner (first :: second :: rest)
  | importedFirst {first second : String} {rest path : List String}
      (hfirst : isKeyword first = false) (himport : index.import? scope.module first = some path)
      (howner : qualified (path ++ second :: rest) = owner) :
      ReadsAs index scope owner (first :: second :: rest)
  | written {first second : String} {rest : List String} (hfirst : isKeyword first = false)
      (himport : index.import? scope.module first = none)
      (hinner : ¬ (index.hasModule (child scope.module first) ∨
        index.hasType (child scope.module first))) :
      ReadsAs index scope owner (first :: second :: rest)

theorem owner?_name_iff (hname : name ≠ "Self")
    (howner : index.import? scope.module name = none → owner = child scope.module name) :
    index.owner? scope [name] = some owner ↔ index.ReadsAs scope owner [name] := by
  rw [owner?_singleton hname]
  cases himport : index.import? scope.module name with
  | some path =>
      rw [typeNamed?_of_import hname himport]
      constructor
      · intro hsame
        exact .imported himport (Option.some.inj hsame)
      · intro halike
        cases halike with
        | imported hsome hpath =>
            cases himport.symm.trans hsome
            exact congrArg some hpath
        | declared hnone => simp [himport] at hnone
        | inner hnone => simp [himport] at hnone
  | none =>
      have hchild := howner himport
      subst hchild
      constructor
      · intro hsame
        cases htype : index.typeNamed? scope name with
        | some type =>
            rw [htype] at hsame
            cases Option.some.inj hsame
            exact .declared himport (hasType_of_typeNamed? hname himport htype)
        | none =>
            cases hmodule : index.hasModule (child scope.module name) with
            | true => exact .inner himport htype hmodule
            | false =>
                rw [htype, hmodule] at hsame
                exact absurd (Option.some.inj hsame).symm (child_ne_name scope.module name)
      · intro halike
        cases halike with
        | imported hsome => simp [himport] at hsome
        | declared _ htype => rw [typeNamed?_of_here hname himport htype, Option.getD_some]
        | inner _ htype hmodule => rw [htype, Option.getD_none, if_pos hmodule]

theorem owner?_path_iff {first second : String} {rest : List String}
    (howner : owner = qualified (relative scope.module (first :: second :: rest))) :
    index.owner? scope (first :: second :: rest) = some owner ↔
      index.ReadsAs scope owner (first :: second :: rest) := by
  rw [owner?_of_long, Option.some_inj]
  cases hfirst : isKeyword first with
  | true =>
      rw [fullPath_of_keyword index _ _ hfirst, howner]
      exact iff_of_true rfl (.keyword hfirst)
  | false =>
      rw [relative_of_not_keyword _ hfirst] at howner
      cases himport : index.import? scope.module first with
      | some path =>
          rw [fullPath_of_import index _ hfirst himport]
          constructor
          · exact .importedFirst hfirst himport
          · intro hreads
            cases hreads with
            | keyword hkeyword => simp [hfirst] at hkeyword
            | importedFirst _ hsome hpath =>
                cases himport.symm.trans hsome
                exact hpath
            | written _ hnone => simp [himport] at hnone
      | none =>
          by_cases hinner : index.hasModule (child scope.module first) ∨
              index.hasType (child scope.module first)
          · rw [fullPath_of_inner index _ hfirst himport hinner, howner]
            refine iff_of_false (qualified_inside_ne _ (List.cons_ne_nil _ _)) ?_
            intro hreads
            cases hreads with
            | keyword hkeyword => simp [hfirst] at hkeyword
            | importedFirst _ hsome => simp [himport] at hsome
            | written _ _ hunknown => exact hunknown hinner
          · rw [fullPath_of_unknown index _ hfirst himport hinner, howner]
            exact iff_of_true rfl (.written hfirst himport hinner)

/-- A method of an `impl` block is declared, and the call of the method through the type, as it is
written in the block, finds the method exactly if the call reads the type as the block does.  For a
name that nothing imports this takes a type or a module of the module itself: a type that comes from
glob imports, or that no module declares, is not found.  For a path it takes a keyword in front of
it, or a name that is neither imported otherwise nor declared in the module. -/
theorem callee?_method_iff (files : List SourceFile) (scope : Scope) (type : List String)
    (declared : DeclaredFunction) (hdeclared : DeclaresMethod files scope.module type declared)
    (hnonempty : type ≠ []) (hself : type ≠ ["Self"]) :
    ((ofFiles files).function? declared.id).isSome ∧
    ((ofFiles files).callee? scope (.path (type ++ [declared.id.name])) = some declared.id ↔
      (ofFiles files).ReadsAs scope declared.id.owner type) := by
  refine ⟨isSome_function?_of_mem hdeclared.mem_functions,
    (callee?_append_eq_some_iff _ hnonempty _).trans ?_⟩
  match type, hnonempty, hself, hdeclared with
  | [name], _, hself, hdeclared =>
      exact owner?_name_iff (fun hname => hself (by rw [hname])) hdeclared.owner_of_name
  | first :: second :: rest, _, _, hdeclared => exact owner?_path_iff hdeclared.owner_of_path

/-- A type of the file with a method. -/
def implementsMesh : List SourceFile :=
  [⟨"shaders", "shaders.rs", "struct Mesh; impl Mesh { fn area() {} }"⟩]

theorem implementsMesh_finds_area :
    ∃ declared, DeclaresMethod implementsMesh "shaders" ["Mesh"] declared ∧
      declared.id.name = "area" ∧
      ((ofFiles implementsMesh).function? declared.id).isSome ∧
      (ofFiles implementsMesh).callee? ⟨"shaders", none⟩ (.path (["Mesh"] ++ ["area"])) =
        some declared.id := by
  obtain ⟨declared, hdeclared, hname⟩ : ∃ declared,
      DeclaresMethod implementsMesh "shaders" ["Mesh"] declared ∧ declared.id.name = "area" :=
    DeclaresMethod.exists_of_any (List.mem_singleton_self _) (by decide +kernel)
  have hiff := callee?_method_iff implementsMesh ⟨"shaders", none⟩ ["Mesh"] declared hdeclared
    (by decide) (by decide)
  rw [hname] at hiff
  exact ⟨declared, hdeclared, hname, hiff.1,
    hiff.2.mpr (.declared (by decide +kernel) (by decide +kernel))⟩

/-- Methods for the type of another module, which is written through an import of that module. -/
def implementsImported : List SourceFile :=
  [⟨"shaders::model", "model.rs", "pub struct Mesh;"⟩,
    ⟨"shaders::scene", "scene.rs",
      "use crate::model; impl model::Mesh { fn area() {} } fn f() { model::Mesh::area(); }"⟩]

/-- The block keeps the path as it is written, while the call reads it through the import. -/
theorem implementsImported_misses_area :
    ((ofFiles implementsImported).functions.map fun function =>
      (function.id, function.scope.module, function.sites.map fun site =>
        (ofFiles implementsImported).callee? function.scope site.target)) =
      [(⟨"model::Mesh", "area"⟩, "shaders::scene", []),
        (⟨"shaders::scene", "f"⟩, "shaders::scene",
          [some ⟨"shaders::model::Mesh", "area"⟩])] := by
  decide +kernel

end SymbolIndex

end ShaderCalls
