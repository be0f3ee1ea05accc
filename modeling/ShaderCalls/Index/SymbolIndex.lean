import ShaderCalls.Index.Outline

/-!
# The symbol index

The outline of all files with one function for each identity: the first one that is declared.
-/

namespace ShaderCalls

/-- The functions without those whose identity an earlier one has. -/
def DeclaredFunction.firstOfEach (functions : List DeclaredFunction) : List DeclaredFunction :=
  functions.foldl
    (fun kept function =>
      if kept.any (·.id = function.id) then kept else kept ++ [function]) []

structure SymbolIndex where
  functions : List DeclaredFunction
  types : List DeclaredType
  modules : List String
  imports : List Import
  globs : List GlobImport

namespace SymbolIndex

def ofOutline (outline : Outline) : SymbolIndex where
  functions := DeclaredFunction.firstOfEach outline.functions
  types := outline.types
  modules := outline.modules
  imports := outline.imports
  globs := outline.globs

/-- The index of source files. -/
def ofFiles (files : List SourceFile) : SymbolIndex :=
  ofOutline (Outline.ofFiles files)

variable (index : SymbolIndex)

def function? (id : FunctionId) : Option DeclaredFunction :=
  index.functions.find? (·.id = id)

/-- The identities of the declared functions, in order. -/
def identities : List FunctionId :=
  ascending (index.functions.map (·.id))

/-- The types that declare a method. -/
def ownersOf (method : String) : List String :=
  index.functions.filterMap fun function =>
    if function.id.name = method then function.scope.owner else none

def hasModule (module : String) : Bool :=
  index.modules.contains module

def hasType (qualified : String) : Bool :=
  index.types.any (·.qualified == qualified)

/-- The qualified names of the declarations of types of a name; a repeated declaration repeats. -/
def typesNamed (name : String) : List String :=
  (index.types.filter (·.name == name)).map (·.qualified)

/-- The path that a module imports under a name. -/
def import? (module name : String) : Option (List String) :=
  Import.find? index.imports module name

/-- The paths of which a module imports all names, in order and each once. -/
def globsOf (module : String) : List (List String) :=
  ascendingDistinct ((index.globs.filter (·.module == module)).map (·.path))

end SymbolIndex

end ShaderCalls
