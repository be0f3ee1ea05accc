import ShaderCalls.Index.Resolution

/-!
# Calls of a single name

A call of a single name is read by the imports of the module first, then by the functions that the
module declares, and by its glob imports last.  So the module's own function is what the call names
unless the module imports a path under the same name.  That path is taken for the path of a
function, also where it is that of a module or a type, and then the call names no declared function.
-/

namespace ShaderCalls

namespace SymbolIndex

variable {index : SymbolIndex} {scope : Scope} {name : String}

theorem callee?_of_imported {path : List String}
    (himport : index.import? scope.module name = some path) (hlong : 1 < path.length) :
    index.callee? scope (.path [name]) = some (idOfPath path) := by
  simp [callee?, himport, hlong]

theorem callee?_of_not_imported
    (himport : ∀ path, index.import? scope.module name = some path → path.length ≤ 1) :
    index.callee? scope (.path [name]) = index.freeFunction? scope.module name := by
  cases hfound : index.import? scope.module name with
  | none => simp [callee?, hfound]
  | some path => simp [callee?, hfound, Nat.not_lt.mpr (himport path hfound)]

theorem freeFunction?_of_declared {module : String}
    (hdeclared : (index.function? ⟨module, name⟩).isSome) :
    index.freeFunction? module name = some ⟨module, name⟩ := by
  simp [freeFunction?, hdeclared]

/-- A call of a single name, where the module declares a function of that name, names this function
unless the module imports a path of several segments as the name; then it names what the path names.
So it names a declared function exactly if such a path is that of one. -/
theorem callee?_own_iff (files : List SourceFile) (scope : Scope) (name : String)
    (hown : ((ofFiles files).function? ⟨scope.module, name⟩).isSome) :
    ((∀ path, (ofFiles files).import? scope.module name = some path → path.length ≤ 1) →
      (ofFiles files).callee? scope (.path [name]) = some ⟨scope.module, name⟩) ∧
    (∀ path, (ofFiles files).import? scope.module name = some path → 1 < path.length →
      (ofFiles files).callee? scope (.path [name]) = some (idOfPath path)) ∧
    ((∃ id, (ofFiles files).callee? scope (.path [name]) = some id ∧
        ((ofFiles files).function? id).isSome) ↔
      ∀ path, (ofFiles files).import? scope.module name = some path → 1 < path.length →
        ((ofFiles files).function? (idOfPath path)).isSome) := by
  have hlocal : (∀ path, (ofFiles files).import? scope.module name = some path →
      path.length ≤ 1) →
        (ofFiles files).callee? scope (.path [name]) = some ⟨scope.module, name⟩ := by
    intro himport
    rw [callee?_of_not_imported himport, freeFunction?_of_declared hown]
  refine ⟨hlocal, fun path himport hlong => callee?_of_imported himport hlong, ?_⟩
  constructor
  · rintro ⟨id, hid, hdeclared⟩ path himport hlong
    rw [callee?_of_imported himport hlong] at hid
    cases hid
    exact hdeclared
  · intro hpaths
    by_cases himport : ∃ path, (ofFiles files).import? scope.module name = some path ∧
        1 < path.length
    · obtain ⟨path, hpath, hlong⟩ := himport
      exact ⟨idOfPath path, callee?_of_imported hpath hlong, hpaths path hpath hlong⟩
    · refine ⟨_, hlocal fun path hpath => ?_, hown⟩
      exact Nat.le_of_not_lt fun hlong => himport ⟨path, hpath, hlong⟩

/-- Two functions, of which one has the name of an imported module. -/
def importsMath : List SourceFile :=
  [⟨"shaders::scene", "scene.rs", "use crate::math; fn math() {} fn f() { math(); }"⟩,
    ⟨"shaders::math", "math.rs", "pub fn lerp() {}"⟩]

/-- A call of the one names the module's own function, a call of the other the path of the import. -/
theorem importsMath_finds_f :
    (((ofFiles importsMath).function? ⟨"shaders::scene", "f"⟩).isSome ∧
      (ofFiles importsMath).callee? ⟨"shaders::scene", none⟩ (.path ["f"]) =
        some ⟨"shaders::scene", "f"⟩) ∧
    ((ofFiles importsMath).function? ⟨"shaders::scene", "math"⟩).isSome ∧
      (ofFiles importsMath).callee? ⟨"shaders::scene", none⟩ (.path ["math"]) =
        some ⟨"shaders", "math"⟩ := by
  have hdeclared : ((ofFiles importsMath).function? ⟨"shaders::scene", "f"⟩).isSome := by
    decide +kernel
  have hmath : ((ofFiles importsMath).function? ⟨"shaders::scene", "math"⟩).isSome := by
    decide +kernel
  have himport : (ofFiles importsMath).import? "shaders::scene" "f" = none := by
    decide +kernel
  have hpath : (ofFiles importsMath).import? "shaders::scene" "math" =
      some ["shaders", "math"] := by
    decide +kernel
  have hown := (callee?_own_iff importsMath ⟨"shaders::scene", none⟩ "f" hdeclared).1
  have himported := (callee?_own_iff importsMath ⟨"shaders::scene", none⟩ "math" hmath).2.1
  exact ⟨⟨hdeclared, hown fun path hfound => by simp [himport] at hfound⟩, hmath,
    himported ["shaders", "math"] hpath (by decide)⟩

/-- The import names a function of the module's parent, which declares none. -/
theorem importsMath_misses_math :
    ((ofFiles importsMath).function? ⟨"shaders::scene", "math"⟩).isSome ∧
    (∃ caller ∈ (ofFiles importsMath).functions, caller.scope.module = "shaders::scene" ∧
      ∃ site ∈ caller.sites, site.target = .path ["math"] ∧
        (ofFiles importsMath).callee? caller.scope site.target = some ⟨"shaders", "math"⟩) ∧
    ((ofFiles importsMath).function? ⟨"shaders", "math"⟩).isNone := by
  decide +kernel

end SymbolIndex

end ShaderCalls
