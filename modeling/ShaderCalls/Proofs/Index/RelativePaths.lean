import Mathlib.Data.List.DropRight
import ShaderCalls.Proofs.Index.Owners

/-!
# Paths in the module tree

A path that begins with `crate` leads into the crate, one that begins with `self` into the module
that it is read from, and every `super` in front of the first name leads one level further out,
though never out of the crate.  Any other path leads where it says.  The index follows all of these
paths but those that climb from `self`: it takes a `super` behind `self` for the name of a module.
-/

namespace ShaderCalls

namespace ModulePath

open Text (segments segments_ne_nil)

/-- The module some levels further out, or the crate if there are not so many. -/
def outward (module : List String) (levels : Nat) : List String :=
  module.rdrop (min levels (module.length - 1))

/-- The path begins with none of the keywords. -/
def IsPlain (path : List String) : Prop :=
  ∀ first ∈ path.head?, isKeyword first = false

instance (path : List String) : Decidable (IsPlain path) :=
  inferInstanceAs (Decidable (∀ first ∈ path.head?, isKeyword first = false))

/-- Where a path leads that is written in a module. -/
inductive LeadsTo (module : List String) : List String → List String → Prop
  | crate {root : String} {inner : List String} (hmodule : module = root :: inner)
      (rest : List String) : LeadsTo module ("crate" :: rest) (root :: rest)
  | self (levels : Nat) {rest : List String} (hrest : IsPlain rest) :
      LeadsTo module ("self" :: (List.replicate levels "super" ++ rest))
        (outward module levels ++ rest)
  | super (levels : Nat) {rest : List String} (hrest : IsPlain rest) :
      LeadsTo module (List.replicate (levels + 1) "super" ++ rest)
        (outward module (levels + 1) ++ rest)
  | written {path : List String} (hpath : IsPlain path) : LeadsTo module path path

/-! ## Climbing -/

@[simp]
theorem outward_zero (module : List String) : outward module 0 = module := by
  simp [outward]

theorem length_outward_le (module : List String) (levels : Nat) :
    (outward module levels).length ≤ module.length := by
  rw [outward, List.rdrop, List.length_take]
  exact Nat.min_le_right _ _

/-- A level is climbed from the innermost module, unless that is the crate. -/
theorem outward_succ (module : List String) (levels : Nat) :
    outward (if module.length > 1 then module.dropLast else module) levels =
      outward module (levels + 1) := by
  unfold outward List.rdrop
  split
  · rw [List.dropLast_eq_take, List.take_take, List.length_take]
    congr 1
    omega
  · congr 1
    omega

theorem IsPlain.climb_eq {rest : List String} (hrest : IsPlain rest) (module : List String) :
    climb module rest = module ++ rest := by
  cases rest with
  | nil => rfl
  | cons first rest =>
      have hfirst : first ≠ "super" := by
        rintro rfl
        exact absurd (hrest "super" rfl) (by decide)
      simp [climb, hfirst]

theorem climb_replicate (module : List String) (levels : Nat) {rest : List String}
    (hrest : IsPlain rest) :
    climb module (List.replicate levels "super" ++ rest) = outward module levels ++ rest := by
  induction levels generalizing module with
  | zero =>
      rw [List.replicate_zero, List.nil_append, outward_zero]
      exact hrest.climb_eq module
  | succ levels ih =>
      rw [List.replicate_succ, List.cons_append, climb, ih, outward_succ]

/-! ## Reading a path -/

theorem IsPlain.relative_eq {path : List String} (hpath : IsPlain path) (module : String) :
    relative module path = path := by
  cases path with
  | nil => rfl
  | cons first rest => exact relative_of_not_keyword module (hpath first rfl)

theorem IsPlain.not_selfSuper {path : List String} (hpath : IsPlain path) :
    ¬ ["self", "super"] <+: path := by
  rintro ⟨rest, rfl⟩
  exact absurd (hpath "self" rfl) (by decide)

theorem relative_crate (module : String) {root : String} {inner : List String}
    (hmodule : segments module = root :: inner) (rest : List String) :
    relative module ("crate" :: rest) = root :: rest := by
  rw [relative, normalize, hmodule]
  rfl

theorem relative_self (module : String) (rest : List String) :
    relative module ("self" :: rest) = segments module ++ rest := rfl

theorem relative_super (module : String) (levels : Nat) {rest : List String}
    (hrest : IsPlain rest) :
    relative module (List.replicate (levels + 1) "super" ++ rest) =
      outward (segments module) (levels + 1) ++ rest :=
  climb_replicate (segments module) (levels + 1) hrest

/-- The path as it stands behind `self` is longer than what any climbing leaves of it. -/
theorem append_replicate_ne_outward (module : List String) (levels : Nat) (rest : List String) :
    module ++ (List.replicate (levels + 1) "super" ++ rest) ≠
      outward module (levels + 1) ++ rest := by
  intro hsame
  have hlength := congrArg List.length hsame
  have hle := length_outward_le module (levels + 1)
  simp only [List.length_append, List.length_replicate] at hlength
  omega

/-- The index reads a path as the place that it leads to exactly if the path does not climb from
`self`.  Of a path that does, it puts what stands behind `self` below the module as it is
written. -/
theorem relative_eq_iff_of_leadsTo (module : String) (path target : List String)
    (hleads : LeadsTo (segments module) path target) :
    (relative module path = target ↔ ¬ ["self", "super"] <+: path) ∧
      (["self", "super"] <+: path → relative module path = segments module ++ path.tail) := by
  cases hleads with
  | crate hmodule rest =>
      have hother : ¬ ["self", "super"] <+: "crate" :: rest := by
        simp
      exact ⟨iff_of_true (relative_crate module hmodule rest) hother,
        fun hprefix => absurd hprefix hother⟩
  | @self levels rest hrest =>
      refine ⟨?_, fun _ => relative_self module _⟩
      rw [relative_self]
      cases levels with
      | zero =>
          have hother : ¬ ["self", "super"] <+: "self" :: rest := by
            rintro ⟨behind, hbehind⟩
            obtain ⟨_, rfl⟩ := List.cons.inj hbehind
            exact absurd (hrest "super" rfl) (by decide)
          simpa using hother
      | succ levels =>
          refine iff_of_false (append_replicate_ne_outward _ levels rest) (not_not.mpr ?_)
          exact ⟨List.replicate levels "super" ++ rest, rfl⟩
  | super levels hrest =>
      have hother : ∀ rest,
          ¬ ["self", "super"] <+: List.replicate (levels + 1) "super" ++ rest := by
        simp [List.replicate_succ]
      exact ⟨iff_of_true (relative_super module levels hrest) (hother _),
        fun hprefix => absurd hprefix (hother _)⟩
  | written hpath =>
      exact ⟨iff_of_true (hpath.relative_eq module) hpath.not_selfSuper,
        fun hprefix => absurd hprefix hpath.not_selfSuper⟩

/-- Three levels lead out of two modules and stop at the crate. -/
theorem climbsToCrate_leadsTo :
    LeadsTo (segments "shaders::scene::props") ["super", "super", "super", "math"]
        ["shaders", "math"] ∧
      relative "shaders::scene::props" ["super", "super", "super", "math"] =
        ["shaders", "math"] := by
  have hmath : IsPlain ["math"] := by
    decide
  have hleads : LeadsTo (segments "shaders::scene::props") ["super", "super", "super", "math"]
      ["shaders", "math"] :=
    .super 2 hmath
  exact ⟨hleads, (relative_eq_iff_of_leadsTo _ _ _ hleads).1.mpr (by decide)⟩

end ModulePath

namespace SymbolIndex

/-- A module imports a function of its sibling by way of `self` and `super`, and calls it. -/
def importsThroughSelf : List SourceFile :=
  [⟨"shaders::math", "math.rs", "pub fn lerp() {}"⟩,
    ⟨"shaders::scene", "scene.rs", "use self::super::math::lerp; fn f() { lerp(); }"⟩]

/-- The imported name stands for nothing that is declared, and so does the call. -/
theorem importsThroughSelf_misses_lerp :
    ModulePath.LeadsTo (Text.segments "shaders::scene") ["self", "super", "math", "lerp"]
        ["shaders", "math", "lerp"] ∧
      ModulePath.relative "shaders::scene" ["self", "super", "math", "lerp"] =
        ["shaders", "scene", "super", "math", "lerp"] ∧
      ((ofFiles importsThroughSelf).functions.map fun caller =>
        (caller.id, caller.sites.map fun site =>
          (ofFiles importsThroughSelf).callee? caller.scope site.target)) =
        [(⟨"shaders::math", "lerp"⟩, []),
          (⟨"shaders::scene", "f"⟩, [some ⟨"shaders::scene::super::math", "lerp"⟩])] := by
  have hlerp : ModulePath.IsPlain ["math", "lerp"] := by
    decide
  exact ⟨.self 1 hlerp, by decide, by decide +kernel⟩

end SymbolIndex

end ShaderCalls
