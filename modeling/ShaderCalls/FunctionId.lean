import ShaderCalls.Text.Character
import ShaderCalls.Text.Separator
import ShaderCalls.Ordered

/-!
# Function identities

A function is known by its owner, a module or a type, and its name.  Its text is both with two
colons between them, and is read back by splitting at the last two colons.
-/

namespace ShaderCalls

structure FunctionId where
  /-- The qualified name of the module or type that the function belongs to. -/
  owner : String
  name : String
  deriving DecidableEq, Repr

namespace FunctionId

/-- The text of an identity. -/
def text (id : FunctionId) : String :=
  id.owner ++ "::" ++ id.name

/-- The identity that a text stands for, without the white space around it; none unless there is an
owner and a name. -/
def parse? (text : String) : Option FunctionId := do
  let (owner, name) ← Text.splitLastColons (Text.trim text).toList
  if owner.isEmpty || name.isEmpty then none
  else some ⟨String.ofList owner, String.ofList name⟩

/-- Identities are ordered by owner, then by name. -/
instance : Ord FunctionId where
  compare left right := (compare left.owner right.owner).then (compare left.name right.name)

end FunctionId

end ShaderCalls
