import Mathlib.Logic.Function.Basic
import ShaderCalls.Proofs.Index.Owners
import ShaderCalls.Proofs.Lists

/-!
# Lines of `use` trees

A `use` tree stands for one declaration without groups for each of its leaves.  The index records
them in one walk, with a path that grows and shrinks on the way, and takes a leaf `self` for the
module above it.  A leaf `self as newName` it takes for an element `self` of that module, so that
the new name stands for nothing that is declared.
-/

namespace ShaderCalls

open ModulePath
open Source (UseTree)

/-- What a line of a `use` tree ends in. -/
inductive UseEnd where
  | name (name : String)
  | rename (name newName : String)
  | glob

/-- One of the declarations that a `use` tree stands for, without groups: the way to a leaf. -/
structure UseLine where
  path : List String
  last : UseEnd

namespace UseLine

def below (above : List String) (line : UseLine) : UseLine :=
  { line with path := above ++ line.path }

/-- The line renames the module that its path leads to, as `path::{self as newName}` does. -/
def RenamesSelf (line : UseLine) : Prop :=
  ∃ newName, line.last = .rename "self" newName

/-- What the index records of a line. -/
def recorded (module : String) (line : UseLine) : Option UseLeaf :=
  match line.last with
  | .name name =>
    if name = "self" then line.path.getLast?.map (.binding · (relative module line.path))
    else some (.binding name (relative module (line.path ++ [name])))
  | .rename name newName => some (.binding newName (relative module (line.path ++ [name])))
  | .glob => some (.glob (relative module line.path))

/-- What a name below a path stands for; `self` stands for the path itself. -/
def target (path : List String) (name : String) : List String :=
  if name = "self" then path else path ++ [name]

/-- What a line means: it binds the last segment of its target, or the new name, to the target. -/
def meant (module : String) (line : UseLine) : Option UseLeaf :=
  match line.last with
  | .name name =>
    (target line.path name).getLast?.map (.binding · (relative module (target line.path name)))
  | .rename name newName => some (.binding newName (relative module (target line.path name)))
  | .glob => some (.glob (relative module line.path))

end UseLine

mutual

/-- The lines of a `use` tree, in the order of the source. -/
def Source.UseTree.lines : UseTree → List UseLine
  | .path segment rest => rest.lines.map (.below [segment])
  | .name last => [⟨[], .name last⟩]
  | .rename last newName => [⟨[], .rename last newName⟩]
  | .glob => [⟨[], .glob⟩]
  | .group trees => Source.UseTree.linesOfAll trees

/-- The lines of several `use` trees. -/
def Source.UseTree.linesOfAll : List UseTree → List UseLine
  | [] => []
  | tree :: rest => tree.lines ++ Source.UseTree.linesOfAll rest

end

/-- The lines of a `use` tree that stands below a path. -/
def Source.UseTree.linesBelow (above : List String) (tree : UseTree) : List UseLine :=
  tree.lines.map (.below above)

namespace UseLine

theorem below_append (above : List String) (segment : String) (line : UseLine) :
    line.below (above ++ [segment]) = (line.below [segment]).below above := by
  simp [below]

end UseLine

mutual

/-- The leaves of a tree are what is recorded of its lines. -/
theorem UseLeaf.ofTree_eq (module : String) (above : List String) : ∀ tree : UseTree,
    ofTree module above tree =
      tree.lines.filterMap fun line => (line.below above).recorded module
  | .path segment rest => by
      rw [ofTree, ofTree_eq module (above ++ [segment]) rest, UseTree.lines, List.filterMap_map]
      simp only [UseLine.below_append, Function.comp_def]
  | .name name => by
      by_cases hself : name = "self"
      · cases hlast : above.getLast? <;>
          simp [ofTree, UseTree.lines, UseLine.below, UseLine.recorded, hself, hlast]
      · simp [ofTree, UseTree.lines, UseLine.below, UseLine.recorded, hself]
  | .rename _ _ => by simp [ofTree, UseTree.lines, UseLine.below, UseLine.recorded]
  | .glob => by simp [ofTree, UseTree.lines, UseLine.below, UseLine.recorded]
  | .group trees => by
      rw [ofTree, ofTrees_eq module above trees, UseTree.lines]

theorem UseLeaf.ofTrees_eq (module : String) (above : List String) : ∀ trees : List UseTree,
    ofTrees module above trees =
      (UseTree.linesOfAll trees).filterMap fun line => (line.below above).recorded module
  | [] => rfl
  | tree :: rest => by
      rw [ofTrees, ofTree_eq module above tree, ofTrees_eq module above rest, UseTree.linesOfAll,
        List.filterMap_append]

end

/-! ## `self` under another name -/

namespace ModulePath

theorem climb_concat (module path : List String) {last : String} (hlast : last ≠ "super") :
    climb module (path ++ [last]) = climb module path ++ [last] := by
  induction path generalizing module with
  | nil => simp [climb, hlast]
  | cons segment rest ih =>
      by_cases hsuper : segment = "super"
      · rw [hsuper, List.cons_append, climb, climb, ih]
      · simp [climb, hsuper]

/-- A further segment goes to the end of what a path means. -/
theorem relative_concat (module : String) {path : List String} (hpath : path ≠ []) {last : String}
    (hlast : last ≠ "super") :
    relative module (path ++ [last]) = relative module path ++ [last] := by
  obtain ⟨first, rest, rfl⟩ := List.exists_cons_of_ne_nil hpath
  cases hkeyword : isKeyword first with
  | false =>
      rw [List.cons_append, relative_of_not_keyword module hkeyword,
        relative_of_not_keyword module hkeyword, List.cons_append]
  | true =>
      simp only [isKeyword, Bool.or_eq_true, beq_iff_eq] at hkeyword
      rcases hkeyword with (rfl | rfl) | rfl
      · simp [relative, normalize]
      · simp [relative, normalize]
      · exact climb_concat _ ("super" :: rest) hlast

/-- An element `self` of what a path means is something else than what the path means. -/
theorem relative_concat_self_ne (module : String) (path : List String) :
    relative module (path ++ ["self"]) ≠ relative module path := by
  cases path with
  | nil => simpa [relative, normalize] using Text.segments_ne_nil module
  | cons first rest =>
      rw [relative_concat module (List.cons_ne_nil _ _) (by decide)]
      simp

end ModulePath

namespace UseLine

variable (module : String) (line : UseLine)

theorem recorded_eq_none_iff : line.recorded module = none ↔ line = ⟨[], .name "self"⟩ := by
  obtain ⟨path, last⟩ := line
  cases last with
  | name last => by_cases hself : last = "self" <;> simp [recorded, hself]
  | rename last newName => simp [recorded]
  | glob => simp [recorded]

theorem isSome_recorded : (line.recorded module).isSome = (line.meant module).isSome := by
  obtain ⟨path, last⟩ := line
  cases last with
  | name last => by_cases hself : last = "self" <;> simp [recorded, meant, target, hself]
  | rename last newName => simp [recorded, meant]
  | glob => simp [recorded, meant]

/-- The index records what a line means, unless it renames `self`: of `path::{self as newName}` it
takes `self` for an element of the path. -/
theorem recorded_eq_meant_iff :
    line.recorded module = line.meant module ↔ ¬line.RenamesSelf := by
  obtain ⟨path, last⟩ := line
  cases last with
  | name last =>
      by_cases hself : last = "self" <;> simp [recorded, meant, target, RenamesSelf, hself]
  | rename last newName =>
      by_cases hself : last = "self"
      · simp [recorded, meant, target, RenamesSelf, hself, relative_concat_self_ne]
      · simp [recorded, meant, target, RenamesSelf, hself]
  | glob => simp [recorded, meant, RenamesSelf]

end UseLine

/-! ## One walk with a shared path -/

/-- What a walk through a `use` tree carries along: the path above the place where it is, the names
that are bound so far and the glob imports so far. -/
structure UseWalk where
  above : List String
  bound : String → Option (List String)
  globs : List (List String)

namespace UseWalk

def record (walk : UseWalk) : UseLeaf → UseWalk
  | .binding name path => { walk with bound := Function.update walk.bound name (some path) }
  | .glob path => { walk with globs := walk.globs ++ [path] }

def enter (segment : String) (walk : UseWalk) : UseWalk :=
  { walk with above := walk.above ++ [segment] }

def leave (walk : UseWalk) : UseWalk :=
  { walk with above := walk.above.dropLast }

/-- Records the leaf where the walk is. -/
def visit (module : String) (last : UseEnd) (walk : UseWalk) : UseWalk :=
  match last with
  | .name name =>
    if name = "self" then
      match walk.above.getLast? with
      | some last => walk.record (.binding last (relative module walk.above))
      | none => walk
    else walk.record (.binding name (relative module (walk.above ++ [name])))
  | .rename name newName =>
    walk.record (.binding newName (relative module (walk.above ++ [name])))
  | .glob => walk.record (.glob (relative module walk.above))

end UseWalk

mutual

/-- Walks through a `use` tree with one path that grows on the way to a leaf and shrinks on the way
back. -/
def Source.UseTree.flatten (module : String) : UseTree → StateM UseWalk Unit
  | .path segment rest => do
    modify (·.enter segment)
    rest.flatten module
    modify (·.leave)
  | .name last => modify (·.visit module (.name last))
  | .rename last newName => modify (·.visit module (.rename last newName))
  | .glob => modify (·.visit module .glob)
  | .group trees => Source.UseTree.flattenAll module trees

def Source.UseTree.flattenAll (module : String) : List UseTree → StateM UseWalk Unit
  | [] => pure ()
  | tree :: rest => do
    tree.flatten module
    Source.UseTree.flattenAll module rest

end

namespace UseWalk

theorem above_foldl_record (leaves : List UseLeaf) (walk : UseWalk) :
    (leaves.foldl record walk).above = walk.above := by
  induction leaves generalizing walk with
  | nil => rfl
  | cons leaf leaves ih =>
      rw [List.foldl_cons, ih]
      cases leaf <;> rfl

/-- What is recorded below a segment is recorded as well when the walk has come back from there. -/
theorem leave_foldl_record (leaves : List UseLeaf) (segment : String) (walk : UseWalk) :
    (leaves.foldl record (walk.enter segment)).leave = leaves.foldl record walk := by
  induction leaves generalizing walk with
  | nil => simp [enter, leave]
  | cons leaf leaves ih =>
      have hrecord : (walk.enter segment).record leaf = (walk.record leaf).enter segment := by
        cases leaf <;> rfl
      rw [List.foldl_cons, hrecord, ih, List.foldl_cons]

theorem visit_eq (module : String) (last : UseEnd) (walk : UseWalk) :
    walk.visit module last =
      (UseLine.recorded module ⟨walk.above, last⟩).toList.foldl record walk := by
  cases last with
  | name last =>
      by_cases hself : last = "self"
      · cases hlast : walk.above.getLast? <;> simp [visit, UseLine.recorded, hself, hlast]
      · simp [visit, UseLine.recorded, hself]
  | rename last newName => rfl
  | glob => rfl

end UseWalk

theorem UseLeaf.ofTree_leaf {module : String} {above : List String} {tree : UseTree} {last : UseEnd}
    (htree : tree.lines = [⟨[], last⟩]) :
    ofTree module above tree = (UseLine.recorded module ⟨above, last⟩).toList := by
  rw [ofTree_eq, htree]
  cases hrecorded : UseLine.recorded module ⟨above, last⟩ <;>
    simp [UseLine.below, hrecorded]

mutual

/-- A walk records the leaves of a tree one after the other, and comes back to where it began. -/
theorem Source.UseTree.run_flatten (module : String) (walk : UseWalk) : ∀ tree : UseTree,
    (tree.flatten module).run walk =
      ((), (UseLeaf.ofTree module walk.above tree).foldl UseWalk.record walk)
  | .path segment rest => by
      have hrest := run_flatten module (walk.enter segment) rest
      rw [UseLeaf.ofTree, ← UseWalk.leave_foldl_record _ segment, flatten]
      change ((), ((rest.flatten module).run (walk.enter segment)).2.leave) = _
      rw [hrest]
      rfl
  | .name last => by
      rw [UseLeaf.ofTree_leaf rfl, ← UseWalk.visit_eq]
      rfl
  | .rename last newName => by
      rw [UseLeaf.ofTree_leaf rfl, ← UseWalk.visit_eq]
      rfl
  | .glob => by
      rw [UseLeaf.ofTree_leaf rfl, ← UseWalk.visit_eq]
      rfl
  | .group trees => by
      rw [UseLeaf.ofTree, flatten]
      exact run_flattenAll module walk trees

theorem Source.UseTree.run_flattenAll (module : String) (walk : UseWalk) :
    ∀ trees : List UseTree,
    (flattenAll module trees).run walk =
      ((), (UseLeaf.ofTrees module walk.above trees).foldl UseWalk.record walk)
  | [] => rfl
  | tree :: rest => by
      rw [UseLeaf.ofTrees, List.foldl_append, flattenAll]
      change (flattenAll module rest).run ((tree.flatten module).run walk).2 = _
      rw [run_flatten module walk tree, run_flattenAll module _ rest,
        UseWalk.above_foldl_record]

end

theorem Import.find?_cons (first : Import) (imports : List Import) (module name : String) :
    find? (first :: imports) module name =
      (find? imports module name).or
        (if first.module = module ∧ first.name = name then some first.path else none) := by
  rw [find?, List.reverse_cons, List.find?_append, Option.map_or, ← find?]
  by_cases hfirst : first.module = module ∧ first.name = name
  · simp [hfirst]
  · simp [hfirst]

namespace UseWalk

theorem bound_foldl_record (module : String) (leaves : List UseLeaf) (walk : UseWalk)
    (name : String) :
    (leaves.foldl record walk).bound name =
      (Import.find? (Import.ofLeaves module leaves) module name).or (walk.bound name) := by
  induction leaves generalizing walk with
  | nil => simp [Import.ofLeaves, Import.find?]
  | cons leaf leaves ih =>
      rw [List.foldl_cons, ih]
      cases leaf with
      | binding bound path =>
          change _ = (Import.find? (⟨module, bound, path⟩ :: Import.ofLeaves module leaves)
            module name).or _
          have hbinding : (walk.record (.binding bound path)).bound name =
              if name = bound then some path else walk.bound name :=
            Function.update_apply ..
          rw [hbinding, Import.find?_cons]
          by_cases hbound : bound = name
          · simp [hbound]
          · simp [hbound, Ne.symm hbound]
      | glob path => rfl

theorem globs_foldl_record (module : String) (leaves : List UseLeaf) (walk : UseWalk) :
    (leaves.foldl record walk).globs =
      walk.globs ++ (GlobImport.ofLeaves module leaves).map (·.path) := by
  induction leaves generalizing walk with
  | nil => simp [GlobImport.ofLeaves]
  | cons leaf leaves ih =>
      rw [List.foldl_cons, ih]
      cases leaf with
      | binding bound path => rfl
      | glob path => simp [record, GlobImport.ofLeaves]

end UseWalk

/-- What a walk through a `use` tree makes of the state before it. -/
structure UseWalk.Flattened (module : String) (tree : UseTree) (before after : UseWalk) : Prop where
  above_eq : after.above = before.above
  /-- A name stands for its last binding in the tree, or else for the one that it had. -/
  bound_eq : ∀ name, after.bound name =
    (Import.find? (Import.ofLeaves module (UseLeaf.ofTree module before.above tree)) module name).or
      (before.bound name)
  globs_eq : after.globs = before.globs ++
    (GlobImport.ofLeaves module (UseLeaf.ofTree module before.above tree)).map (·.path)
  /-- Each line gives its own leaf, in the order of the source. -/
  leaves_eq : UseLeaf.ofTree module before.above tree =
    (tree.linesBelow before.above).filterMap (UseLine.recorded module)
  /-- Only a `self` below no path gives none. -/
  recorded_eq_none_iff : ∀ line ∈ tree.linesBelow before.above,
    line.recorded module = none ↔ line = ⟨[], .name "self"⟩
  /-- The leaves are what the lines mean exactly if no line renames `self`. -/
  means_iff : UseLeaf.ofTree module before.above tree =
      (tree.linesBelow before.above).filterMap (UseLine.meant module) ↔
    ∀ line ∈ tree.linesBelow before.above, ¬line.RenamesSelf

/-- A walk through a `use` tree leaves the path as it was and records one leaf for each line.  It
records what the lines mean exactly if none of them renames `self`. -/
theorem Source.UseTree.flattened_flatten (module : String) (tree : UseTree) (walk : UseWalk) :
    walk.Flattened module tree ((tree.flatten module).run walk).2 := by
  have hleaves : UseLeaf.ofTree module walk.above tree =
      (tree.linesBelow walk.above).filterMap (UseLine.recorded module) := by
    rw [linesBelow, List.filterMap_map]
    exact UseLeaf.ofTree_eq module walk.above tree
  rw [run_flatten module walk tree]
  exact {
    above_eq := UseWalk.above_foldl_record _ walk
    bound_eq := UseWalk.bound_foldl_record module _ walk
    globs_eq := UseWalk.globs_foldl_record module _ walk
    leaves_eq := hleaves
    recorded_eq_none_iff := fun line _ => line.recorded_eq_none_iff module
    means_iff := by
      rw [hleaves, filterMap_eq_filterMap_iff fun line _ => line.isSome_recorded module]
      exact forall₂_congr fun line _ => line.recorded_eq_meant_iff module }

/-- The tree of `use crate::math::{self, Vec3 as V, ops::{lerp, *}};`. -/
example :
    let tree := UseTree.path "crate" (.path "math" (.group
      [.name "self", .rename "Vec3" "V", .path "ops" (.group [.name "lerp", .glob])]))
    UseLeaf.ofTree "shaders::scene" [] tree =
      [.binding "math" ["shaders", "math"], .binding "V" ["shaders", "math", "Vec3"],
        .binding "lerp" ["shaders", "math", "ops", "lerp"],
        .glob ["shaders", "math", "ops"]] := by
  decide +kernel

namespace SymbolIndex

/-- A module imports another one under a new name by `self`, and calls a function of it. -/
def importsSelfAs : List SourceFile :=
  [⟨"shaders::math", "math.rs", "pub fn lerp() {}"⟩,
    ⟨"shaders::scene", "scene.rs", "use crate::math::{self as m}; fn f() { m::lerp(); }"⟩]

/-- The new name stands for an element `self` of the module, and the call for nothing declared. -/
theorem importsSelfAs_misses_lerp :
    (ofFiles importsSelfAs).import? "shaders::scene" "m" = some ["shaders", "math", "self"] ∧
    ((ofFiles importsSelfAs).functions.map fun caller =>
      (caller.id, caller.sites.map fun site =>
        (ofFiles importsSelfAs).callee? caller.scope site.target)) =
      [(⟨"shaders::math", "lerp"⟩, []),
        (⟨"shaders::scene", "f"⟩, [some ⟨"shaders::math::self", "lerp"⟩])] := by
  decide +kernel

end SymbolIndex

end ShaderCalls
