import ShaderCalls.FunctionId

/-!
# Declarations

What the discovery of a shader asks about a declared function, and where it asks: a `Resolver`
knows finitely many declared functions.  A function without a declaration is an intrinsic.
-/

namespace ShaderCalls

/-- An attribute of a declaration, with its arguments in the order of the source. -/
structure Attribute where
  name : String
  arguments : List String
  deriving DecidableEq, Repr

/-- A call expression in a body. -/
structure Call where
  text : String
  /-- The function that is called, if the expression can be resolved. -/
  callee : Option FunctionId
  deriving DecidableEq, Repr

/-- A declared function. -/
structure Declaration where
  /-- The calls of the body in the order of the source. -/
  calls : List Call
  attributes : List Attribute
  /-- The names of the parameters and their resolved types. -/
  parameters : List (String × String)
  /-- The resolved type of the result, if one is declared. -/
  result : Option String
  body : String
  deriving DecidableEq, Repr

/-- The attributes of a name. -/
def Declaration.attributesNamed (declaration : Declaration) (name : String) : List Attribute :=
  declaration.attributes.filter (·.name == name)

/-- A source of declarations. -/
structure Resolver where
  declaration? : FunctionId → Option Declaration
  /-- The declared functions. -/
  declared : List FunctionId
  mem_declared : ∀ {id : FunctionId}, (declaration? id).isSome → id ∈ declared

/-- The declarations of a list, where the first of an identity counts. -/
def Resolver.ofList (declarations : List (FunctionId × Declaration)) : Resolver where
  declaration? id := (declarations.find? (·.1 = id)).map (·.2)
  declared := declarations.map (·.1)
  mem_declared := by
    intro id found
    rw [Option.isSome_map, List.find?_isSome] at found
    obtain ⟨declaration, isListed, hasId⟩ := found
    exact List.mem_map.2 ⟨declaration, isListed, by simpa using hasId⟩

end ShaderCalls
