import ShaderCalls.Proofs.Index.Owners

/-!
# Calls through a keyword

A path that begins with `crate`, `self` or `super` is read from the module of the call.  That holds
of every owner that has more segments than the keyword.  A keyword that is the whole owner is looked
up like the name of a type, so that call reaches the module only if the tables of the index lead
there, or if the module itself is called like the keyword.
-/

namespace ShaderCalls

open ModulePath Text

namespace ModulePath

theorem isKeyword_cases {segment : String} (hkeyword : isKeyword segment) :
    segment = "crate" ∨ segment = "self" ∨ segment = "super" := by
  simpa [isKeyword, or_assoc] using hkeyword

theorem isKeyword_ne_self {segment : String} (hkeyword : isKeyword segment) : segment ≠ "Self" := by
  rintro rfl
  exact absurd hkeyword (by decide)

/-- A keyword stands for the module or for one around it. -/
theorem relative_keyword_isPrefix (module : String) {keyword : String}
    (hkeyword : isKeyword keyword) : relative module [keyword] <+: segments module := by
  rcases isKeyword_cases hkeyword with rfl | rfl | rfl
  · rw [relative, normalize, List.append_nil]
    exact List.take_prefix 1 (segments module)
  · simp [relative, normalize, List.prefix_rfl]
  · have hclimb : relative module ["super"] =
        if (segments module).length > 1 then (segments module).dropLast else segments module := by
      simp [relative, normalize, climb]
    rw [hclimb]
    split
    · exact List.dropLast_prefix (segments module)
    · exact List.prefix_rfl

theorem child_ne_relative_keyword (module name : String) {keyword : String}
    (hkeyword : isKeyword keyword) :
    child module name ≠ qualified (relative module [keyword]) := by
  intro hsame
  obtain ⟨rest, hsegments⟩ := relative_keyword_isPrefix module hkeyword
  have hle : (qualified (relative module [keyword])).length ≤ module.length := by
    calc
      (qualified (relative module [keyword])).length
          ≤ (qualified (relative module [keyword] ++ rest)).length :=
        length_qualified_le_append _ rest
      _ = module.length := by rw [hsegments, qualified_segments]
  have hlength := length_child module name
  rw [hsame] at hlength
  omega

end ModulePath

namespace SymbolIndex

/-- Looked up as a name, the keyword leads to the module that it stands for: as an import or a type,
or else because it is the name of that module and of no module inside the one of the scope. -/
def FindsModule (index : SymbolIndex) (scope : Scope) (keyword : String) : Prop :=
  index.typeNamed? scope keyword = some (qualified (relative scope.module [keyword])) ∨
    (index.typeNamed? scope keyword = none ∧
      index.hasModule (child scope.module keyword) = false ∧
        keyword = qualified (relative scope.module [keyword]))

theorem owner?_keyword_iff (index : SymbolIndex) (scope : Scope) {keyword : String}
    (hkeyword : isKeyword keyword) :
    index.owner? scope [keyword] = some (qualified (relative scope.module [keyword])) ↔
      index.FindsModule scope keyword := by
  rw [owner?_singleton (isKeyword_ne_self hkeyword), FindsModule]
  cases htype : index.typeNamed? scope keyword with
  | some type => simp
  | none =>
      cases hmodule : index.hasModule (child scope.module keyword) with
      | true => simpa using child_ne_relative_keyword scope.module keyword hkeyword
      | false => simp

/-- A call through a keyword names the function in what the keyword and the segments after it stand
for, whatever the index holds, if there are segments between the keyword and the function.  Through
a keyword alone it does so only if the index leads from the keyword to its module. -/
theorem callee?_keyword_iff (index : SymbolIndex) (scope : Scope) (keyword : String)
    (rest : List String) (name : String) (hkeyword : isKeyword keyword) :
    index.callee? scope (.path (keyword :: rest ++ [name])) =
        some ⟨qualified (relative scope.module (keyword :: rest)), name⟩ ↔
      rest ≠ [] ∨ index.FindsModule scope keyword := by
  rw [index.callee?_append_eq_some_iff (List.cons_ne_nil keyword rest) name]
  cases rest with
  | nil => simpa using index.owner?_keyword_iff scope hkeyword
  | cons second rest =>
      rw [owner?_of_long, fullPath_of_keyword index scope.module (second :: rest) hkeyword]
      simp

example : (ofFiles [⟨"crate", "lib.rs", "fn g() {}"⟩]).callee? ⟨"crate::math", none⟩
    (.path ["crate", "g"]) = some ⟨"crate", "g"⟩ := by
  decide +kernel

/-- A function that calls one of an inner module and one beside it, both through `crate`. -/
def callsThroughCrate : List SourceFile :=
  [⟨"shaders", "shaders.rs",
    "mod math { pub fn lerp() {} } fn f() { crate::math::lerp(); crate::g(); } fn g() {}"⟩]

theorem callsThroughCrate_inner :
    isKeyword "crate" ∧
      (ofFiles callsThroughCrate).callee? ⟨"shaders", none⟩ (.path ["crate", "math", "lerp"]) =
        some ⟨qualified (relative "shaders" ["crate", "math"]), "lerp"⟩ :=
  ⟨by decide, (callee?_keyword_iff (ofFiles callsThroughCrate) ⟨"shaders", none⟩ "crate" ["math"]
    "lerp" (by decide)).mpr (Or.inl (List.cons_ne_nil _ _))⟩

/-- The call of the function beside it does not name that function, although it is declared. -/
theorem callsThroughCrate_beside_is_lost :
    (∃ caller ∈ (ofFiles callsThroughCrate).functions, ∃ site ∈ caller.sites,
      site.target = .path ["crate", "g"] ∧
        (ofFiles callsThroughCrate).callee? caller.scope site.target ≠
          some ⟨qualified (relative caller.scope.module ["crate"]), "g"⟩) ∧
    ((ofFiles callsThroughCrate).function?
      ⟨qualified (relative "shaders" ["crate"]), "g"⟩).isSome := by
  decide +kernel

end SymbolIndex

end ShaderCalls
