import ShaderCalls.Files.Path

/-!
# Files as modules

The module that a file is, read off its path below the directory of its crate.
-/

namespace ShaderCalls

/-- The names of files that are the module of the directory that they stand in. -/
def directoryModules : List String :=
  ["lib", "main", "mod"]

/-- The components with the extension of the last one dropped. -/
def Path.withoutExtension (components : List Component) : List Component :=
  match components.getLast? with
  | some last => components.dropLast ++ [last.withoutExtension]
  | none => []

/-- The components of a file's path below a root; all of them if it is not below. -/
def Path.below (root file : String) : List Component :=
  let path := components file
  ((components root).isPrefixOf? path).getD path

/-- The names of the modules, outermost first, that lead from a crate to a file below its root. -/
def modulesTo (root file : String) : List String :=
  let names := (Path.withoutExtension (Path.below root file)).map (·.text)
  if names.getLast?.any directoryModules.contains then names.dropLast else names

/-- The module of a crate that a file below its root is. -/
def modulePath (root file crate : String) : String :=
  Text.qualified (crate :: modulesTo root file)

end ShaderCalls
