import ShaderCalls.Index.SymbolIndex

/-!
# Resolution

What the names in a declaration stand for.  Nothing here looks at the types of expressions: a call
of a method on anything but `self` names the one type that declares such a method.
-/

namespace ShaderCalls

open Source (CallTarget TypeExpr)

/-- The owner of methods that no indexed type declares.  No function has this owner. -/
def intrinsicOwner : String :=
  "<intrinsic>"

namespace SymbolIndex

variable (index : SymbolIndex)

/-- The full path that a path in a module stands for: leading keywords, imports and the modules and
types inside the module are resolved. -/
def fullPath (module : String) (path : List String) : List String :=
  match path with
  | [] => []
  | first :: rest =>
    if ModulePath.isKeyword first then ModulePath.relative module path
    else
      match index.import? module first with
      | some imported => imported ++ rest
      | none =>
        let child := ModulePath.child module first
        if index.hasModule child || index.hasType child then Text.segments module ++ path
        else path

/-- What `name` may stand for by the glob imports of a module, in order and each once. -/
def globCandidates (module name : String) : List String :=
  ascendingDistinct ((index.globsOf module).map fun path =>
    ModulePath.child (Text.qualified (index.fullPath module path)) name)

/-- The one element of a list, or else whether there is none. -/
inductive Choice (α : Type) where
  | none
  | one (element : α)
  | several

/-- How many elements a list has. -/
def Choice.ofList {α : Type} : List α → Choice α
  | [] => .none
  | [element] => .one element
  | _ => .several

/-- The qualified name of a type that is written as one name: an import, a type of the module, the
one type that glob imports bring in, or the only type of that name. -/
def typeNamed? (scope : Scope) (name : String) : Option String :=
  if name == "Self" then scope.owner
  else
    match index.import? scope.module name with
    | some path => some (Text.qualified path)
    | none =>
      let here := ModulePath.child scope.module name
      if index.hasType here then some here
      else
        match Choice.ofList ((index.globCandidates scope.module name).filter index.hasType) with
        | .one found => some found
        | .several => none
        | .none =>
          match index.typesNamed name with
          | [found] => some found
          | _ => none

/-- The function that a single name stands for: one that the module declares, or the one that glob
imports bring in, or else a function of the module without a declaration. -/
def freeFunction? (module name : String) : Option FunctionId :=
  let here : FunctionId := ⟨module, name⟩
  if (index.function? here).isSome then some here
  else
    let found := ((index.globCandidates module name).filterMap FunctionId.parse?).filter fun id =>
      (index.function? id).isSome
    match Choice.ofList found with
    | .one id => some id
    | .several => none
    | .none => some here

/-- The owner that the path in front of a function's name stands for. -/
def owner? (scope : Scope) (path : List String) : Option String :=
  match path with
  | [name] =>
    if name == "Self" then scope.owner
    else
      match index.typeNamed? scope name with
      | some type => some type
      | none =>
        let child := ModulePath.child scope.module name
        some (if index.hasModule child then child else name)
  | path => some (Text.qualified (index.fullPath scope.module path))

/-- The identity that the last segment of a path names in what stands before it. -/
def idOfPath (path : List String) : FunctionId :=
  ⟨Text.qualified path.dropLast, (path.getLast?).getD ""⟩

/-- The function that a call target in a scope stands for. -/
def callee? (scope : Scope) (target : CallTarget) : Option FunctionId :=
  match target with
  | .path [] => none
  | .path [name] =>
    match index.import? scope.module name with
    | some path =>
      if path.length > 1 then some (idOfPath path) else index.freeFunction? scope.module name
    | none => index.freeFunction? scope.module name
  | .path path =>
    (index.owner? scope path.dropLast).map fun owner => ⟨owner, (path.getLast?).getD ""⟩
  | .selfMethod name => scope.owner.map fun owner => ⟨owner, name⟩
  | .method name =>
    match index.ownersOf name with
    | [] => some ⟨intrinsicOwner, name⟩
    | [owner] => some ⟨owner, name⟩
    | _ => none
  | .unsupported => none

/-- The name of the type that a type expression in a scope stands for: its own text unless it names
an indexed or imported type. -/
def typeName (scope : Scope) (type : TypeExpr) : String :=
  let found :=
    match type.path with
    | some [name] => index.typeNamed? scope name
    | some path =>
      let full := Text.qualified (index.fullPath scope.module path)
      if index.hasType full then some full else none
    | none => none
  found.getD type.text

/-! ## The index as a resolver -/

/-- A declared function with its names resolved. -/
def declarationOf (function : DeclaredFunction) : Declaration where
  calls := function.sites.map fun site => ⟨site.text, index.callee? function.scope site.target⟩
  attributes := function.attributes
  parameters := function.parameters.map fun (name, type) =>
    (name, index.typeName function.scope type)
  result := function.result.map (index.typeName function.scope)
  body := function.body

/-- The declarations of an index. -/
def resolver : Resolver where
  declaration? id := (index.function? id).map index.declarationOf
  declared := index.functions.map (·.id)
  mem_declared := by
    intro id found
    rw [Option.isSome_map, function?, List.find?_isSome] at found
    obtain ⟨function, isIndexed, hasId⟩ := found
    exact List.mem_map.2 ⟨function, isIndexed, by simpa using hasId⟩

end SymbolIndex

end ShaderCalls
