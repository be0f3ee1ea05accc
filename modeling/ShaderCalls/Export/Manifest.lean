import ShaderCalls.Json.Printer
import ShaderCalls.Shader.Program

/-!
# Manifests

A program as a JSON value.  The workgroup counts stand in the manifest of a compute function alone.
-/

namespace ShaderCalls.Manifest

def ofParameter (parameter : TypedParameter) : Json :=
  .object [("name", .string parameter.name), ("type", .string parameter.type)]

def ofDispatch (dispatch : Dispatch) : Json :=
  .object [("x", .ofNat dispatch.x.toNat), ("y", .ofNat dispatch.y.toNat),
    ("z", .ofNat dispatch.z.toNat)]

def ofFunction (function : FunctionRecord) : Json :=
  .object (
    [("owner", .string function.id.owner),
      ("name", .string function.id.name),
      ("kind", .string function.kind.title),
      ("return_type", .string function.result),
      ("parameters", .array (function.parameters.map ofParameter))] ++
    (if function.kind = .compute then [("dispatch", ofDispatch function.dispatch)] else []) ++
    [("body", .string function.body)])

def ofCall (call : FunctionId × FunctionId) : Json :=
  .object [("from", .string call.1.text), ("to", .string call.2.text)]

/-- The manifest of a program. -/
def ofProgram (program : Program) : Json :=
  .object [("root", .string program.root.text),
    ("kind", .string program.kind.title),
    ("functions", .array (program.functions.map ofFunction)),
    ("calls", .array (program.calls.map ofCall))]

/-- The manifest of several programs. -/
def ofPrograms (programs : List Program) : Json :=
  .array (programs.map ofProgram)

end ShaderCalls.Manifest
