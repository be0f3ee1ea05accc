import ShaderCalls.Proofs.Index.ModuleBody
import ShaderCalls.Proofs.Index.Owners

/-!
# Imports from inner modules

A path that begins with the name of an inner module is read inside the module when it is called or
used as a type.  A `use` declaration keeps the same path as it is written.  The imported name
therefore stands for something else than the path: it never means what the declaration imports.
-/

namespace ShaderCalls

open ModulePath Text
open Source (Item UseTree TypeExpr)

namespace SymbolIndex

variable {files : List SourceFile} {scope : Scope} {name : String}

/-- A name that is not imported stands for a type in some module, whose name is longer. -/
theorem typeNamed?_ne_name {type : String} (hname : name ≠ "Self")
    (himport : (ofFiles files).import? scope.module name = none)
    (htype : (ofFiles files).typeNamed? scope name = some type) : type ≠ name := by
  cases foundType_of_typeNamed? hname htype with
  | imported hsome => simp [himport] at hsome
  | here => exact child_ne_name scope.module name
  | globbed => exact child_ne_name _ name
  | only _ _ hmem hsame =>
      obtain ⟨module, hqualified⟩ := Outline.typesInModules_ofFiles files _ hmem
      rw [hqualified, hsame]
      exact child_ne_name module name

section Import

variable {index : SymbolIndex} {path : List String}

theorem callee?_of_import (hpath : path ≠ [])
    (himport : index.import? scope.module name = some (path ++ [name])) :
    index.callee? scope (.path [name]) = some ⟨qualified path, name⟩ := by
  simp [callee?, himport, idOfPath, hpath]

theorem typeName_of_name {type : TypeExpr} (htype : type.path = some [name]) :
    index.typeName scope type = (index.typeNamed? scope name).getD type.text := by
  simp [typeName, htype]

theorem typeName_of_path {type : TypeExpr} (hlong : path.length > 1)
    (htype : type.path = some path)
    (hindexed : index.hasType (qualified (index.fullPath scope.module path))) :
    index.typeName scope type = qualified (index.fullPath scope.module path) := by
  match path, hlong with
  | _ :: _ :: _, _ => simp [typeName, htype, hindexed]

end Import

/-- A module has the declaration `use outer::inner::..::name;`, where `outer` is a module inside it,
and imports nothing else as `name` and nothing as `outer`. -/
structure ImportsFromInner (files : List SourceFile) (module outer : String) (inner : List String)
    (name : String) : Prop where
  used : ∃ file items, ModuleBody files file module items ∧
    Item.use (.ofPath (outer :: inner) name) ∈ items
  once : ∀ found ∈ (ofFiles files).imports, found.module = module → found.name = name →
    found.path = outer :: inner ++ [name]
  outer_isName : IsName outer
  name_isName : IsName name
  isInner : (ofFiles files).hasModule (child module outer)
  outer_free : (ofFiles files).import? module outer = none

namespace ImportsFromInner

variable {outer : String} {inner : List String}

theorem import?_name (himports : ImportsFromInner files scope.module outer inner name) :
    (ofFiles files).import? scope.module name = some (outer :: inner ++ [name]) := by
  obtain ⟨file, items, hbody, huse⟩ := himports.used
  have hmem := hbody.mem_imports huse himports.name_isName.ne_lowercase_self
  rw [List.cons_append, relative_of_not_keyword _ himports.outer_isName.not_keyword] at hmem
  exact Import.find?_eq_some hmem himports.once

theorem fullPath_eq (himports : ImportsFromInner files scope.module outer inner name)
    (rest : List String) :
    (ofFiles files).fullPath scope.module (outer :: rest) =
      segments scope.module ++ outer :: rest :=
  (ofFiles files).fullPath_of_inner rest himports.outer_isName.not_keyword himports.outer_free
    (Or.inl himports.isInner)

/-- The path in front of the name is an owner that is not left as it is written. -/
theorem owner?_ne (himports : ImportsFromInner files scope.module outer inner name) :
    (ofFiles files).owner? scope (outer :: inner) ≠ some (qualified (outer :: inner)) := by
  cases inner with
  | nil =>
      rw [owner?_singleton himports.outer_isName.ne_self, qualified_singleton]
      cases htype : (ofFiles files).typeNamed? scope outer with
      | some type =>
          simpa using typeNamed?_ne_name himports.outer_isName.ne_self himports.outer_free htype
      | none => simpa [himports.isInner] using child_ne_name scope.module outer
  | cons second rest =>
      rw [owner?_of_long, himports.fullPath_eq]
      simpa using qualified_inside_ne scope.module (List.cons_ne_nil outer (second :: rest))

theorem callee?_name_ne (himports : ImportsFromInner files scope.module outer inner name) :
    (ofFiles files).callee? scope (.path [name]) ≠
      (ofFiles files).callee? scope (.path (outer :: inner ++ [name])) := by
  rw [callee?_of_import (List.cons_ne_nil outer inner) himports.import?_name]
  intro hsame
  have howner := (callee?_append_eq_some_iff _ (List.cons_ne_nil outer inner) name).mp hsame.symm
  exact himports.owner?_ne howner

theorem callee?_owner_ne (himports : ImportsFromInner files scope.module outer inner name)
    (method : String) :
    (ofFiles files).callee? scope (.path ([name] ++ [method])) ≠
      (ofFiles files).callee? scope (.path ((outer :: inner ++ [name]) ++ [method])) := by
  have hshort : (ofFiles files).owner? scope [name] =
      some (qualified (outer :: inner ++ [name])) := by
    rw [owner?_singleton himports.name_isName.ne_self,
      typeNamed?_of_import himports.name_isName.ne_self himports.import?_name]
    rfl
  have hlong : (ofFiles files).owner? scope (outer :: inner ++ [name]) =
      some (qualified (segments scope.module ++ (outer :: inner ++ [name]))) := by
    rw [List.cons_append, ← himports.fullPath_eq]
    cases inner <;> rfl
  rw [callee?_append _ (List.cons_ne_nil name []), callee?_append _ (by simp), hshort, hlong]
  intro hsame
  have howners := (FunctionId.mk.inj (Option.some.inj hsame)).1
  exact qualified_inside_ne scope.module (by simp) howners.symm

theorem typeName_ne (himports : ImportsFromInner files scope.module outer inner name)
    (hindexed : (ofFiles files).hasType
      (qualified (segments scope.module ++ (outer :: inner ++ [name]))))
    {short long : TypeExpr} (hshort : short.path = some [name])
    (hlong : long.path = some (outer :: inner ++ [name])) :
    (ofFiles files).typeName scope short ≠ (ofFiles files).typeName scope long := by
  rw [List.cons_append] at hindexed hlong
  rw [← himports.fullPath_eq] at hindexed
  rw [typeName_of_name hshort,
    typeNamed?_of_import himports.name_isName.ne_self himports.import?_name, Option.getD_some,
    typeName_of_path (by simp) hlong hindexed, himports.fullPath_eq]
  exact (qualified_inside_ne scope.module (List.cons_ne_nil outer (inner ++ [name]))).symm

end ImportsFromInner

/-- A name that a module imports from a module inside it is never read like the path of the import.
A call of the name misses the function that a call of the path names, a call of a function of the
name has another owner than one through the path, and as a type the name is not the type that the
path names. -/
theorem importFromInner_ne_path (files : List SourceFile) (scope : Scope) (outer : String)
    (inner : List String) (name : String)
    (himports : ImportsFromInner files scope.module outer inner name) :
    (ofFiles files).callee? scope (.path [name]) ≠
        (ofFiles files).callee? scope (.path (outer :: inner ++ [name])) ∧
    (∀ method, (ofFiles files).callee? scope (.path ([name] ++ [method])) ≠
        (ofFiles files).callee? scope (.path ((outer :: inner ++ [name]) ++ [method]))) ∧
    ((ofFiles files).hasType (qualified (segments scope.module ++ (outer :: inner ++ [name]))) →
      ∀ short long : TypeExpr, short.path = some [name] →
        long.path = some (outer :: inner ++ [name]) →
          (ofFiles files).typeName scope short ≠ (ofFiles files).typeName scope long) :=
  ⟨himports.callee?_name_ne, himports.callee?_owner_ne,
    fun hindexed _ _ hshort hlong => himports.typeName_ne hindexed hshort hlong⟩

/-- A type of an inner module's inner module, imported by its path. -/
def importsArc : List SourceFile :=
  [⟨"shaders", "shaders.rs",
    "mod math { pub mod curves { pub struct Arc; } } use math::curves::Arc;"⟩]

theorem importsArc_index :
    (ofFiles importsArc).imports = [⟨"shaders", "Arc", ["math", "curves", "Arc"]⟩] ∧
    (ofFiles importsArc).modules = ["shaders", "shaders::math", "shaders::math::curves"] ∧
    (ofFiles importsArc).types = [⟨"Arc", "shaders::math::curves::Arc"⟩] := by
  decide +kernel

theorem importsArc_importsFromInner :
    ImportsFromInner importsArc "shaders" "math" ["curves"] "Arc" where
  used := by
    obtain ⟨items, hbody, item, hitem, htree⟩ :
        ∃ items, ModuleBody importsArc "shaders.rs" "shaders" items ∧
          ∃ item ∈ items, Item.isUseOf ["math", "curves"] "Arc" item :=
      ModuleBody.exists_of_any _ (List.mem_singleton_self _) (by decide +kernel)
    exact ⟨_, items, hbody, (Item.eq_of_isUseOf htree) ▸ hitem⟩
  once := by
    rw [importsArc_index.1]
    decide
  outer_isName := ⟨by decide, by decide⟩
  name_isName := ⟨by decide, by decide⟩
  isInner := by
    rw [hasModule, importsArc_index.2.1]
    decide
  outer_free := by
    rw [import?, importsArc_index.1]
    decide

theorem importsArc_hasType :
    (ofFiles importsArc).hasType
      (qualified (segments "shaders" ++ ("math" :: ["curves"] ++ ["Arc"]))) := by
  rw [hasType, importsArc_index.2.2]
  decide +kernel

/-- The type is not found under its imported name. -/
theorem importsArc_ne_path :
    ImportsFromInner importsArc "shaders" "math" ["curves"] "Arc" ∧
      ∀ short long : TypeExpr, short.path = some ["Arc"] →
        long.path = some ["math", "curves", "Arc"] →
          (ofFiles importsArc).typeName ⟨"shaders", none⟩ short ≠
            (ofFiles importsArc).typeName ⟨"shaders", none⟩ long :=
  ⟨importsArc_importsFromInner,
    (importFromInner_ne_path importsArc ⟨"shaders", none⟩ "math" ["curves"] "Arc"
      importsArc_importsFromInner).2.2 importsArc_hasType⟩

/-- A function of an inner module that is called by its imported name and by its path. -/
def callsLerpTwice : List SourceFile :=
  [⟨"shaders", "shaders.rs",
    "mod math { pub fn lerp() {} } use math::lerp; fn f() { lerp(); math::lerp(); }"⟩]

/-- The call of the imported name misses the function that the call of the path names. -/
theorem callsLerpTwice_misses_once :
    (ofFiles callsLerpTwice).hasModule "shaders::math" ∧
    (ofFiles callsLerpTwice).import? "shaders" "math" = none ∧
    ((ofFiles callsLerpTwice).functions.map fun caller =>
      (caller.id, caller.sites.map fun site =>
        (ofFiles callsLerpTwice).callee? caller.scope site.target)) =
      [(⟨"shaders::math", "lerp"⟩, []),
        (⟨"shaders", "f"⟩, [some ⟨"math", "lerp"⟩, some ⟨"shaders::math", "lerp"⟩])] := by
  decide +kernel

end SymbolIndex

end ShaderCalls
