import ShaderCalls.Discovery.Error
import ShaderCalls.Shader.Declaration
import ShaderCalls.Shader.Program
import ShaderCalls.Text.Digits

/-!
# Extraction

The record of a declared function.  Its kind is that of the first marker it carries in the order
vertex, fragment, compute; a compute function takes its workgroup counts from the first marker of
that kind.
-/

namespace ShaderCalls

/-- The kind of a declared function, and the marker that carries its workgroup counts. -/
def Declaration.classify (declaration : Declaration) (markers : Markers) :
    Kind × Option Attribute :=
  if !(declaration.attributesNamed markers.vertex).isEmpty then (.vertex, none)
  else if !(declaration.attributesNamed markers.fragment).isEmpty then (.fragment, none)
  else
    match declaration.attributesNamed markers.compute with
    | marker :: _ => (.compute, some marker)
    | [] => (.normal, none)

namespace Dispatch

/-- The number of workgroup counts. -/
def arity : Nat :=
  3

/-- The workgroup count that an argument of a marker stands for. -/
def count? (argument : String) : Option UInt32 :=
  Text.word32? (Text.trim argument).toList

/-- The workgroup count at a position of a marker. -/
def countAt (function : FunctionId) (marker : Attribute) (position : Nat) (argument : String) :
    Except DiscoveryError UInt32 :=
  match count? argument with
  | some count => .ok count
  | none => .error (.attributeFormat function marker.name position argument)

/-- The workgroup counts of a marker; its arguments past the third do not matter. -/
def ofMarker (function : FunctionId) (marker : Attribute) : Except DiscoveryError Dispatch :=
  match marker.arguments with
  | x :: y :: z :: _ => do
    let x ← countAt function marker 0 x
    let y ← countAt function marker 1 y
    let z ← countAt function marker 2 z
    .ok ⟨x, y, z⟩
  | arguments => .error (.attributeArity function marker.name arity arguments.length)

end Dispatch

/-- The record of a declared function. -/
def Declaration.extract (markers : Markers) (id : FunctionId) (declaration : Declaration) :
    Except DiscoveryError FunctionRecord := do
  let (kind, marker) := declaration.classify markers
  let dispatch ←
    match marker with
    | some marker => Dispatch.ofMarker id marker
    | none => .ok {}
  .ok {
    id
    result := declaration.result.getD voidType
    parameters := declaration.parameters.map fun (name, type) => ⟨name, type⟩
    kind, dispatch
    body := declaration.body }

end ShaderCalls
