import ShaderCalls.Shader.Program

/-!
# Listings

One line for each function of a program: its identity, parameters, result and kind.
-/

namespace ShaderCalls.Listing

/-- The line of a function; that of a compute function ends with its workgroup counts. -/
def line (function : FunctionRecord) : String :=
  let parameters := function.parameters.map fun parameter =>
    parameter.name ++ ": " ++ parameter.type
  let dispatch := function.dispatch
  let counts := [dispatch.x, dispatch.y, dispatch.z].map fun count => toString count.toNat
  function.id.text ++ "(" ++ ", ".intercalate parameters ++ ") -> " ++ function.result ++ " [" ++
    function.kind.word ++ "]" ++
    (if function.kind = .compute then " (" ++ ", ".intercalate counts ++ ")" else "")

/-- The listing of a program, under a line with its root and kind. -/
def ofProgram (program : Program) : String :=
  "\n".intercalate
    (("# " ++ program.root.text ++ " (" ++ program.kind.word ++ ")") :: program.functions.map line)

end ShaderCalls.Listing
