/-!
# JSON values

Numbers are kept as they are spelled.  The members of an object keep their order, and a name may
occur more than once.
-/

namespace ShaderCalls

inductive Json where
  | null
  | bool (value : Bool)
  | number (spelling : List Char)
  | string (text : String)
  | array (elements : List Json)
  | object (members : List (String × Json))
  deriving Repr

namespace Json

def ofNat (value : Nat) : Json :=
  .number (Nat.toDigits 10 value)

/-- The values of the members of a name. -/
def membersNamed (name : String) : Json → List Json
  | .object members => (members.filter (·.1 == name)).map (·.2)
  | _ => []

end Json

end ShaderCalls
