import ShaderCalls.Index.ModulePath
import ShaderCalls.Source.Code

/-!
# Imports

What the `use` declarations of a module bring in: names for paths, and all names of a path.
-/

namespace ShaderCalls

open Source (UseTree Item)

/-- One leaf of a `use` tree. -/
inductive UseLeaf where
  /-- A name for a path. -/
  | binding (name : String) (path : List String)
  /-- All names of a path. -/
  | glob (path : List String)
  deriving DecidableEq, Repr

mutual

/-- The leaves of a `use` tree below a path, in the order of the source.  A leaf `self` names the
last segment of the path above it. -/
def UseLeaf.ofTree (module : String) (above : List String) : UseTree → List UseLeaf
  | .path segment rest => UseLeaf.ofTree module (above ++ [segment]) rest
  | .name name =>
    if name == "self" then
      match above.getLast? with
      | some last => [.binding last (ModulePath.relative module above)]
      | none => []
    else [.binding name (ModulePath.relative module (above ++ [name]))]
  | .rename name newName => [.binding newName (ModulePath.relative module (above ++ [name]))]
  | .glob => [.glob (ModulePath.relative module above)]
  | .group trees => UseLeaf.ofTrees module above trees

/-- The leaves of several `use` trees below one path. -/
def UseLeaf.ofTrees (module : String) (above : List String) : List UseTree → List UseLeaf
  | [] => []
  | tree :: rest => UseLeaf.ofTree module above tree ++ UseLeaf.ofTrees module above rest

end

/-- The leaves of the `use` declarations among the items of a module. -/
def UseLeaf.ofItems (module : String) (items : List Item) : List UseLeaf :=
  items.flatMap fun
    | .use tree => UseLeaf.ofTree module [] tree
    | _ => []

/-- A name that a module imports. -/
structure Import where
  module : String
  name : String
  path : List String
  deriving DecidableEq, Repr

/-- A path of which a module imports all names. -/
structure GlobImport where
  module : String
  path : List String
  deriving DecidableEq, Repr

/-- The names that leaves bind in a module. -/
def Import.ofLeaves (module : String) (leaves : List UseLeaf) : List Import :=
  leaves.filterMap fun
    | .binding name path => some ⟨module, name, path⟩
    | .glob _ => none

/-- The paths of which leaves bring in all names of a module. -/
def GlobImport.ofLeaves (module : String) (leaves : List UseLeaf) : List GlobImport :=
  leaves.filterMap fun
    | .binding .. => none
    | .glob path => some ⟨module, path⟩

/-- The path that the last import of a name in a module binds it to. -/
def Import.find? (imports : List Import) (module name : String) : Option (List String) :=
  (imports.reverse.find? fun found => found.module = module && found.name = name).map (·.path)

end ShaderCalls
