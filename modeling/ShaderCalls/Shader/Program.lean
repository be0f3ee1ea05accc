import ShaderCalls.FunctionId
import ShaderCalls.Shader.Kind

/-!
# Shader programs

What a backend needs to write out one entry point.
-/

namespace ShaderCalls

/-- A parameter with its resolved type. -/
structure TypedParameter where
  name : String
  type : String
  deriving DecidableEq, Repr

/-- The numbers of workgroups that a compute function declares; zero for any other function. -/
structure Dispatch where
  x : UInt32 := 0
  y : UInt32 := 0
  z : UInt32 := 0
  deriving DecidableEq, Repr

/-- The description of a discovered function. -/
structure FunctionRecord where
  id : FunctionId
  result : String
  parameters : List TypedParameter
  kind : Kind
  dispatch : Dispatch
  body : String
  deriving DecidableEq, Repr

/-- The type of the result of a function that declares none. -/
def voidType : String :=
  "void"

/-- One entry point and all functions that it reaches. -/
structure Program where
  root : FunctionId
  kind : Kind
  /-- Every callee stands before its callers; the root comes last. -/
  functions : List FunctionRecord
  /-- Pairs of a caller and its callee. -/
  calls : List (FunctionId × FunctionId)
  deriving DecidableEq, Repr

namespace Program

/-- The first function of a program that has an identity. -/
def function? (program : Program) (id : FunctionId) : Option FunctionRecord :=
  program.functions.find? (·.id = id)

/-- The identities of the functions, in order. -/
def order (program : Program) : List FunctionId :=
  program.functions.map (·.id)

end Program

end ShaderCalls
