import ShaderCalls.Shader.Declaration
import ShaderCalls.Source.Token

/-!
# Code: what a body says about calls and names

`Code` keeps of a function body what decides which functions it calls: calls, macro uses, the
names that patterns bind, and the constructs that limit where a name is bound.  Everything else is
`Code.other`, which holds its parts in the order of the source.  A file is a list of `Item`s.
-/

namespace ShaderCalls.Source

inductive Code where
  /-- `f(..)`.  `callee` is the path of `f` when that is a plain path; `parts` are the attributes,
  the callee and the arguments. -/
  | call (callee : Option (List String)) (tokens : List Token) (parts : List Code)
  /-- `e.name(..)`.  `onSelf` tells that `e` is the word `self`; `parts` are the attributes, the
  receiver, the generic arguments and the arguments. -/
  | method (onSelf : Bool) (name : String) (tokens : List Token) (parts : List Code)
  /-- `m!(..)`, with its arguments when they are a list of expressions or `value; count`. -/
  | macroUse (arguments : Option (List Code)) (tokens : List Token)
  /-- A pattern that binds `name`; `parts` are its attributes and the pattern after `@`. -/
  | binding (name : String) (parts : List Code)
  /-- `let pattern = initializer;`, where the initializer may have an `else` block. -/
  | letStatement (pattern : Code) (initializer : List Code)
  | block (statements : List Code)
  /-- An item inside a body, with its name when it is a function. -/
  | item (function : Option String)
  | closure (parameters : List Code) (body : Code)
  | arm (pattern : Code) (guard : List Code) (body : Code)
  /-- `let pattern = scrutinee` as a condition. -/
  | letCondition (pattern scrutinee : Code)
  | conditional (condition consequent : Code) (alternative : List Code)
  | whileLoop (condition body : Code)
  | forLoop (pattern iterated body : Code)
  /-- An expression that begins with an operand: its attributes belong to that operand. -/
  | operation (first : Code) (rest : List Code)
  | other (parts : List Code)

/-- Code that says nothing. -/
def Code.empty : Code :=
  .other []

/-- A type as written, freed of references and parentheses around it. -/
structure TypeExpr where
  /-- The segments of the type when it is a path without generic arguments. -/
  path : Option (List String)
  tokens : List Token

/-- The printed form of a type. -/
def TypeExpr.text (type : TypeExpr) : String :=
  Token.render type.tokens

structure Parameter where
  /-- The name that the parameter binds, or its pattern as printed. -/
  name : String
  pattern : Code
  type : TypeExpr

/-- A function with a body.  A receiver is no parameter, and `()` is no result. -/
structure Function where
  name : String
  /-- The line of the name. -/
  line : Nat
  /-- The attributes, each named by the last segment of its path. -/
  attributes : List Attribute
  parameters : List Parameter
  result : Option TypeExpr
  /-- The body as printed, with its braces. -/
  tokens : List Token
  statements : List Code

/-- What a `use` declaration imports. -/
inductive UseTree where
  | path (segment : String) (rest : UseTree)
  | name (name : String)
  | rename (name newName : String)
  | glob
  | group (trees : List UseTree)

/-- A declaration of a file, as far as the index of declared names goes. -/
inductive Item where
  | function (declared : Function)
  /-- An `impl` block, with the segments of its type when that is a path. -/
  | implementation (type : Option (List String)) (methods : List Function)
  | use (tree : UseTree)
  /-- A structure or an enumeration. -/
  | type (name : String)
  | module (name : String) (items : Option (List Item))
  | other

/-- The name of an item that is a function. -/
def Item.functionName? : Item → Option String
  | .function declared => some declared.name
  | _ => none

end ShaderCalls.Source
