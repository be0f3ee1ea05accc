import ShaderCalls.Export.Graphviz
import ShaderCalls.Export.Listing
import ShaderCalls.Export.Manifest

/-!
# Backends

The forms in which programs are written out.
-/

namespace ShaderCalls

inductive Backend where
  | json
  | dot
  | text
  deriving DecidableEq, Repr

namespace Backend

/-- The text of one program. -/
def emit (backend : Backend) (program : Program) : String :=
  match backend with
  | .json => (Manifest.ofProgram program).render
  | .dot => Graphviz.ofProgram program
  | .text => Listing.ofProgram program

/-- The text of several programs: one manifest, or the texts below one another. -/
def emitAll (backend : Backend) (programs : List Program) : String :=
  match backend with
  | .json => (Manifest.ofPrograms programs).render
  | .dot => "\n".intercalate (programs.map Graphviz.ofProgram)
  | .text => "\n".intercalate (programs.map Listing.ofProgram)

end Backend

end ShaderCalls
