import ShaderCalls.Index.Resolution
import ShaderCalls.Proofs.Index.QualifiedName

/-!
# The owner of a called path

A call of a path with several segments names its last segment in the owner that the segments before
it stand for.  This module says what the owner is: two segments or more are read as a path, and a
single one is looked up among the imports, the types and the inner modules.
-/

namespace ShaderCalls

namespace ModulePath

/-- A segment that is a name and not one of the words with a meaning of their own. -/
structure IsName (segment : String) : Prop where
  not_keyword : isKeyword segment = false
  ne_self : segment ≠ "Self"

theorem IsName.ne_lowercase_self {segment : String} (hname : IsName segment) :
    segment ≠ "self" := by
  rintro rfl
  exact absurd hname.not_keyword (by decide)

/-- A path that begins with no keyword stays as it is written. -/
theorem relative_of_not_keyword (module : String) {first : String} {rest : List String}
    (hfirst : isKeyword first = false) : relative module (first :: rest) = first :: rest := by
  simp only [isKeyword, Bool.or_eq_false_iff, beq_eq_false_iff_ne] at hfirst
  unfold relative normalize
  split <;> simp_all

end ModulePath

namespace SymbolIndex

open ModulePath Text

variable (index : SymbolIndex) {scope : Scope}

/-! ## Paths -/

theorem callee?_append {owner : List String} (howner : owner ≠ []) (name : String) :
    index.callee? scope (.path (owner ++ [name])) =
      (index.owner? scope owner).map fun owner => ⟨owner, name⟩ := by
  obtain ⟨first, rest, rfl⟩ := List.exists_cons_of_ne_nil howner
  cases rest with
  | nil => rfl
  | cons second rest =>
      have hinit : (first :: second :: rest ++ [name]).dropLast = first :: second :: rest :=
        List.dropLast_concat
      have hlast : (first :: second :: rest ++ [name]).getLast? = some name :=
        List.getLast?_concat
      change (index.owner? scope (first :: second :: rest ++ [name]).dropLast).map (fun owner =>
        (⟨owner, ((first :: second :: rest ++ [name]).getLast?).getD ""⟩ : FunctionId)) = _
      rw [hinit, hlast]
      rfl

/-- A call of a path names a function exactly if the segments in front stand for its owner. -/
theorem callee?_append_eq_some_iff {owner : List String} (howner : owner ≠ []) {found : String}
    (name : String) :
    index.callee? scope (.path (owner ++ [name])) = some ⟨found, name⟩ ↔
      index.owner? scope owner = some found := by
  rw [index.callee?_append howner]
  simp

theorem owner?_of_long (first second : String) (rest : List String) :
    index.owner? scope (first :: second :: rest) =
      some (qualified (index.fullPath scope.module (first :: second :: rest))) := rfl

theorem fullPath_of_keyword (module : String) {first : String} (rest : List String)
    (hfirst : isKeyword first) :
    index.fullPath module (first :: rest) = relative module (first :: rest) := by
  simp [fullPath, hfirst]

theorem fullPath_of_import {module first : String} {imported : List String} (rest : List String)
    (hfirst : isKeyword first = false) (himport : index.import? module first = some imported) :
    index.fullPath module (first :: rest) = imported ++ rest := by
  simp [fullPath, hfirst, himport]

theorem fullPath_of_inner {module first : String} (rest : List String)
    (hfirst : isKeyword first = false) (himport : index.import? module first = none)
    (hinner : index.hasModule (child module first) ∨ index.hasType (child module first)) :
    index.fullPath module (first :: rest) = segments module ++ first :: rest := by
  simp [fullPath, hfirst, himport, hinner]

theorem fullPath_of_unknown {module first : String} (rest : List String)
    (hfirst : isKeyword first = false) (himport : index.import? module first = none)
    (hinner : ¬ (index.hasModule (child module first) ∨ index.hasType (child module first))) :
    index.fullPath module (first :: rest) = first :: rest := by
  simp [fullPath, hfirst, himport, hinner]

/-! ## Single names -/

variable {index} {name : String}

theorem owner?_singleton (hname : name ≠ "Self") :
    index.owner? scope [name] = some ((index.typeNamed? scope name).getD
      (if index.hasModule (child scope.module name) then child scope.module name else name)) := by
  cases htype : index.typeNamed? scope name <;> simp [owner?, hname, htype]

theorem typeNamed?_of_import {path : List String} (hname : name ≠ "Self")
    (himport : index.import? scope.module name = some path) :
    index.typeNamed? scope name = some (qualified path) := by
  simp [typeNamed?, hname, himport]

theorem typeNamed?_of_here (hname : name ≠ "Self")
    (himport : index.import? scope.module name = none)
    (hhere : index.hasType (child scope.module name)) :
    index.typeNamed? scope name = some (child scope.module name) := by
  simp [typeNamed?, hname, himport, hhere]

/-- The type that a name stands for which is neither imported nor declared in the module. -/
theorem typeNamed?_of_elsewhere (hname : name ≠ "Self")
    (himport : index.import? scope.module name = none)
    (hhere : index.hasType (child scope.module name) = false) :
    index.typeNamed? scope name =
      match Choice.ofList ((index.globCandidates scope.module name).filter index.hasType) with
      | .one found => some found
      | .several => none
      | .none =>
        match index.typesNamed name with
        | [found] => some found
        | _ => none := by
  have hnotIndexed : ¬ index.hasType (child scope.module name) := Bool.eq_false_iff.mp hhere
  rw [typeNamed?, if_neg (by simpa using hname), himport]
  exact if_neg hnotIndexed

theorem Choice.eq_cons_of_one {α : Type} {elements : List α} {element : α}
    (hchoice : Choice.ofList elements = .one element) : elements = [element] := by
  match elements with
  | [] => contradiction
  | [_] => exact congrArg (· :: []) (Choice.one.inj hchoice)
  | _ :: _ :: _ => contradiction

theorem mem_globCandidates_iff {module candidate : String} :
    candidate ∈ index.globCandidates module name ↔
      ∃ path, ⟨module, path⟩ ∈ index.globs ∧
        candidate = child (qualified (index.fullPath module path)) name := by
  rw [globCandidates, ascendingDistinct, List.mem_eraseDups, ascending, List.mem_mergeSort,
    List.mem_map]
  simp only [globsOf, ascendingDistinct, List.mem_eraseDups, ascending, List.mem_mergeSort,
    List.mem_map, List.mem_filter, beq_iff_eq]
  constructor
  · rintro ⟨path, ⟨glob, ⟨hglob, rfl⟩, rfl⟩, rfl⟩
    exact ⟨glob.path, hglob, rfl⟩
  · rintro ⟨path, hglob, rfl⟩
    exact ⟨path, ⟨_, ⟨hglob, rfl⟩, rfl⟩, rfl⟩

theorem exists_child_of_mem_globCandidates {module found : String}
    (hfound : found ∈ index.globCandidates module name) :
    ∃ parent, found = child parent name := by
  obtain ⟨path, _, rfl⟩ := mem_globCandidates_iff.mp hfound
  exact ⟨_, rfl⟩

/-- A type that a name stands for is imported, or brought in by a glob import, or the only indexed
type of that name, or the one that the module declares. -/
inductive FoundType (index : SymbolIndex) (scope : Scope) (name : String) : String → Prop
  | imported {path : List String} (himport : index.import? scope.module name = some path) :
      FoundType index scope name (qualified path)
  | here (himport : index.import? scope.module name = none)
      (htype : index.hasType (child scope.module name)) :
      FoundType index scope name (child scope.module name)
  | globbed {parent : String} (himport : index.import? scope.module name = none)
      (hhere : index.hasType (child scope.module name) = false)
      (htype : index.hasType (child parent name)) :
      FoundType index scope name (child parent name)
  | only {declared : DeclaredType} (himport : index.import? scope.module name = none)
      (hhere : index.hasType (child scope.module name) = false)
      (hmem : declared ∈ index.types) (hname : declared.name = name) :
      FoundType index scope name declared.qualified

theorem foundType_of_typeNamed? {type : String} (hname : name ≠ "Self")
    (htype : index.typeNamed? scope name = some type) : FoundType index scope name type := by
  cases himport : index.import? scope.module name with
  | some path =>
      rw [typeNamed?_of_import hname himport] at htype
      cases htype
      exact .imported himport
  | none =>
      cases hhere : index.hasType (child scope.module name) with
      | true =>
          rw [typeNamed?_of_here hname himport hhere] at htype
          cases htype
          exact .here himport hhere
      | false =>
          rw [typeNamed?_of_elsewhere hname himport hhere] at htype
          split at htype
          · next found hchoice =>
              cases htype
              have hmem : type ∈ (index.globCandidates scope.module name).filter index.hasType := by
                rw [Choice.eq_cons_of_one hchoice]
                exact List.mem_singleton_self type
              obtain ⟨hcandidate, hindexed⟩ := List.mem_filter.mp hmem
              obtain ⟨parent, rfl⟩ := exists_child_of_mem_globCandidates hcandidate
              exact .globbed himport hhere hindexed
          · contradiction
          · split at htype
            · next found honly =>
                cases htype
                have hmem : type ∈ index.typesNamed name := by
                  rw [honly]
                  exact List.mem_singleton_self type
                obtain ⟨declared, hdeclared, rfl⟩ := List.mem_map.mp hmem
                obtain ⟨hindexed, hsame⟩ := List.mem_filter.mp hdeclared
                exact .only himport hhere hindexed (by simpa using hsame)
            · contradiction

end SymbolIndex

end ShaderCalls
