import ShaderCalls.FunctionId

/-!
# Discovery errors

Each error ends the discovery of one entry point; its message is meant for the author of the shader.
-/

namespace ShaderCalls

inductive DiscoveryError where
  /-- The requested entry point has no declaration. -/
  | rootResolution (root : FunctionId)
  /-- A call in a reachable function resolves to nothing. -/
  | unresolvedCall (caller : FunctionId) (call : String)
  /-- A reachable function calls a function that is being expanded; the cycle runs from that
  function down to the caller. -/
  | cyclicCall (cycle : List FunctionId)
  /-- The marker of a compute function has too few arguments. -/
  | attributeArity (function : FunctionId) (marker : String) (expected found : Nat)
  /-- An argument of that marker is no unsigned integer; positions count from zero. -/
  | attributeFormat (function : FunctionId) (marker : String) (position : Nat)
      (argument : String)
  deriving DecidableEq, Repr

namespace DiscoveryError

def message : DiscoveryError → String
  | .rootResolution root => s!"entry point `{root.text}` has no resolvable declaration"
  | .unresolvedCall caller call =>
    s!"call `{call}` in `{caller.text}` could not be resolved to a function"
  | .cyclicCall cycle =>
    let path := (cycle ++ cycle.take 1).map (·.text)
    "recursive call cycle detected, shader targets cannot recurse: " ++ " -> ".intercalate path
  | .attributeArity function marker expected found =>
    s!"`{marker}` on `{function.text}` takes {expected} arguments but {found} were supplied"
  | .attributeFormat function marker position argument =>
    s!"argument {position + 1} of `{marker}` on `{function.text}` is not " ++
      s!"an unsigned integer literal: `{argument}`"

end DiscoveryError

end ShaderCalls
