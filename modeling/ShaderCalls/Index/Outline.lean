import ShaderCalls.Index.Import
import ShaderCalls.Source.CallSite
import ShaderCalls.Source.File

/-!
# Outlines

What a source file declares: its functions, types, modules and imports in the order of the source,
each under the module that it belongs to.  Inline modules are part of the file; a module without a
body has a file of its own.
-/

namespace ShaderCalls

open Source (Item CallSite TypeExpr)

/-- A source file and the module that it is. -/
structure SourceFile where
  module : String
  path : String
  text : String
  deriving DecidableEq, Repr

/-- Where a function is declared: in a module, and for a method also in a type. -/
structure Scope where
  module : String
  /-- The qualified name of the type that `Self` stands for. -/
  owner : Option String
  deriving DecidableEq, Repr

/-- A declared function as written. -/
structure DeclaredFunction where
  id : FunctionId
  scope : Scope
  /-- The file and the line of the name, with a colon between them. -/
  location : String
  attributes : List Attribute
  parameters : List (String × TypeExpr)
  result : Option TypeExpr
  body : String
  sites : List CallSite

/-- A function as it is declared in a scope; its owner is the type, or else the module. -/
def DeclaredFunction.ofFunction (path : String) (scope : Scope) (function : Source.Function) :
    DeclaredFunction where
  id := ⟨scope.owner.getD scope.module, function.name⟩
  scope := scope
  location := path ++ ":" ++ toString function.line
  attributes := function.attributes
  parameters := function.parameters.map fun parameter => (parameter.name, parameter.type)
  result := function.result
  body := Source.Token.render function.tokens
  sites := function.callSites

/-- A structure or enumeration. -/
structure DeclaredType where
  name : String
  qualified : String
  deriving DecidableEq, Repr

structure Outline where
  functions : List DeclaredFunction := []
  types : List DeclaredType := []
  modules : List String := []
  imports : List Import := []
  globs : List GlobImport := []

namespace Outline

def append (left right : Outline) : Outline where
  functions := left.functions ++ right.functions
  types := left.types ++ right.types
  modules := left.modules ++ right.modules
  imports := left.imports ++ right.imports
  globs := left.globs ++ right.globs

instance : Append Outline := ⟨append⟩

/-- The owner of the methods of an `impl` block, from the path of its type.  A single name stands
for what the module imports under it, or else for a type in the module. -/
def implementedType (module : String) (imports : List Import) (type : List String) : String :=
  match type with
  | [name] =>
    match Import.find? imports module name with
    | some path => Text.qualified path
    | none => ModulePath.child module name
  | path => Text.qualified (ModulePath.relative module path)

/-- A module with the imports among its items. -/
def ofModule (module : String) (items : List Item) : Outline :=
  let leaves := UseLeaf.ofItems module items
  { modules := [module]
    imports := Import.ofLeaves module leaves
    globs := GlobImport.ofLeaves module leaves }

mutual

/-- What an item of a module declares, where `imports` are the imports among the items beside it. -/
def ofItem (path module : String) (imports : List Import) : Item → Outline
  | .function declared => { functions := [.ofFunction path ⟨module, none⟩ declared] }
  | .implementation (some type) methods =>
    let owner := implementedType module imports type
    { functions := methods.map (.ofFunction path ⟨module, some owner⟩) }
  | .implementation none _ => {}
  | .type name => { types := [⟨name, ModulePath.child module name⟩] }
  | .module name (some items) =>
    let child := ModulePath.child module name
    let header := ofModule child items
    header ++ ofItems path child header.imports items
  | .module name none => { modules := [ModulePath.child module name] }
  | .use _ => {}
  | .other => {}

/-- What the items of a module declare. -/
def ofItems (path module : String) (imports : List Import) : List Item → Outline
  | [] => {}
  | item :: rest => ofItem path module imports item ++ ofItems path module imports rest

end

/-- What a file declares; nothing if it is not well formed. -/
def ofFile (file : SourceFile) : Outline :=
  match Item.ofSource? file.text with
  | some items =>
    let header := ofModule file.module items
    header ++ ofItems file.path file.module header.imports items
  | none => {}

/-- What several files declare. -/
def ofFiles (files : List SourceFile) : Outline :=
  files.foldr (fun file rest => ofFile file ++ rest) {}

end Outline

end ShaderCalls
