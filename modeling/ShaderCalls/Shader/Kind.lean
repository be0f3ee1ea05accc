import ShaderCalls.Text.Field

/-!
# Kinds of shader functions

An entry point is a vertex, fragment or compute function; an attribute marks it as such.
-/

namespace ShaderCalls

inductive Kind where
  | normal
  | vertex
  | fragment
  | compute
  deriving DecidableEq, Repr

namespace Kind

def isEntryPoint (kind : Kind) : Bool :=
  kind != .normal

/-- The word for a kind in listings. -/
def word : Kind → String
  | .normal => "normal"
  | .vertex => "vertex"
  | .fragment => "fragment"
  | .compute => "compute"

/-- The word for a kind, shown in a field. -/
def display (layout : Text.Layout) (kind : Kind) : String :=
  Text.pad layout kind.word

/-- The name of a kind in manifests. -/
def title : Kind → String
  | .normal => "Normal"
  | .vertex => "VertexEntryPoint"
  | .fragment => "FragmentEntryPoint"
  | .compute => "ComputeEntryPoint"

end Kind

/-- The names of the attributes that mark entry points. -/
structure Markers where
  vertex : String := "vertex_shader"
  fragment : String := "fragment_shader"
  compute : String := "compute_shader"
  deriving DecidableEq, Repr

end ShaderCalls
