/-!
# TOML values

The values that the text of a configuration can hold.
-/

namespace ShaderCalls

inductive Toml where
  | string (text : String)
  | integer (value : Int)
  | float (value : Float)
  | boolean (value : Bool)
  /-- A date, a time or both, as spelled. -/
  | moment (spelling : String)
  | array (elements : List Toml)
  | table (members : List (String × Toml))
  deriving Repr

namespace Toml

/-- A nonempty key: the names that lead to a value, with points between them. -/
structure Key where
  /-- The names of the tables on the way, outermost first. -/
  tables : List String
  name : String
  deriving Repr

/-- The greatest number of arrays and inline tables that hold one another, and of names in a key. -/
def nestingLimit : Nat :=
  79

end Toml

end ShaderCalls
