import ShaderCalls.Text.Separator

/-!
# Module paths

A path as written is read from a module: `crate` stands for the first segment of the module's path,
`self` for the module, and each leading `super` for one module further out, but never further than
the first segment.
-/

namespace ShaderCalls.ModulePath

/-- What a path means whose leading `super` segments are read from a module. -/
def climb (module : List String) : List String → List String
  | "super" :: rest => climb (if module.length > 1 then module.dropLast else module) rest
  | rest => module ++ rest

/-- What a path means that is read from a module; a path without a leading keyword stays as it
is. -/
def normalize (module : List String) (path : List String) : List String :=
  match path with
  | "crate" :: rest => module.take 1 ++ rest
  | "self" :: rest => module ++ rest
  | "super" :: _ => climb module path
  | _ => path

/-- What a path means that is read from the module of a qualified name. -/
def relative (module : String) (path : List String) : List String :=
  normalize (Text.segments module) path

/-- Whether a segment is a keyword that a path may begin with. -/
def isKeyword (segment : String) : Bool :=
  segment == "crate" || segment == "self" || segment == "super"

/-- The qualified name of something declared in a module. -/
def child (module name : String) : String :=
  module ++ "::" ++ name

end ShaderCalls.ModulePath
