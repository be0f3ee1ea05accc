import ShaderCalls.Discovery.Error
import ShaderCalls.Shader.Declaration

/-!
# Callees

The functions that a body calls, each once, in the order of their first calls.  A call that resolves
to nothing is an error, since without it the shader would be incomplete.
-/

namespace ShaderCalls

namespace Call

/-- Resolves the calls one after the other; `found` are the callees so far. -/
def calleesAfter (caller : FunctionId) (found : List FunctionId) :
    List Call → Except DiscoveryError (List FunctionId)
  | [] => .ok found
  | call :: rest =>
    match call.callee with
    | none => .error (.unresolvedCall caller call.text)
    | some callee =>
      calleesAfter caller (if callee ∈ found then found else found ++ [callee]) rest

end Call

/-- The functions that a declared function calls. -/
def Declaration.callees (declaration : Declaration) (caller : FunctionId) :
    Except DiscoveryError (List FunctionId) :=
  Call.calleesAfter caller [] declaration.calls

end ShaderCalls
