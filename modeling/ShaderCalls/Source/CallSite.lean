import ShaderCalls.Source.Code

/-!
# Call sites

The calls in a body, collected in one walk in the order of the source.  A call stands before the
calls in its own parts.  The walk keeps the names that are bound: a call of such a name calls a
value, not a declared function.  A block unbinds at its end what was bound inside it.
-/

namespace ShaderCalls.Source

/-- What a call expression calls, as written. -/
inductive CallTarget where
  /-- `f(..)` with a path for `f` -/
  | path (segments : List String)
  /-- `self.f(..)` -/
  | selfMethod (name : String)
  /-- `e.f(..)` on any other receiver -/
  | method (name : String)
  /-- A callee that is no path to a declaration, or a macro whose arguments are no expressions. -/
  | unsupported
  deriving DecidableEq, Repr

structure CallSite where
  target : CallTarget
  text : String
  deriving DecidableEq, Repr

/-- The state of the walk. -/
structure Walk where
  /-- The calls that were met, last first. -/
  sites : List CallSite
  /-- The names that are bound, last first. -/
  bound : List String

namespace Walk

def add (walk : Walk) (target : CallTarget) (tokens : List Token) : Walk :=
  { walk with sites := ⟨target, Token.render tokens⟩ :: walk.sites }

def bind (walk : Walk) (name : String) : Walk :=
  { walk with bound := name :: walk.bound }

/-- The target of `f(..)` where `callee` is the path of `f`, if it is one. -/
def targetOf (walk : Walk) (callee : Option (List String)) : CallTarget :=
  match callee with
  | some [name] => if name ∈ walk.bound then .unsupported else .path [name]
  | some segments => .path segments
  | none => .unsupported

end Walk

mutual

/-- The walk after some code. -/
def Code.walk (walk : Walk) : Code → Walk
  | .call callee tokens parts => walkAll (walk.add (walk.targetOf callee) tokens) parts
  | .method onSelf name tokens parts =>
    walkAll (walk.add (if onSelf then .selfMethod name else .method name) tokens) parts
  | .macroUse (some arguments) _ => walkAll walk arguments
  | .macroUse none tokens => walk.add .unsupported tokens
  | .binding name parts => walkAll (walk.bind name) parts
  | .letStatement pattern initializer => pattern.walk (walkAll walk initializer)
  | .block statements => { walkAll walk statements with bound := walk.bound }
  | .item _ => walk
  | .closure parameters body => body.walk (walkAll walk parameters)
  | .arm pattern guard body => body.walk (walkAll (pattern.walk walk) guard)
  | .letCondition pattern scrutinee => scrutinee.walk (pattern.walk walk)
  | .conditional condition consequent alternative =>
    walkAll (consequent.walk (condition.walk walk)) alternative
  | .whileLoop condition body => body.walk (condition.walk walk)
  | .forLoop pattern iterated body => body.walk (iterated.walk (pattern.walk walk))
  | .operation first rest => walkAll (first.walk walk) rest
  | .other parts => walkAll walk parts

/-- The walk after one piece of code after the other. -/
def walkAll (walk : Walk) : List Code → Walk
  | [] => walk
  | code :: rest => walkAll (code.walk walk) rest

end

/-- The calls in the body of a function. -/
def Function.callSites (function : Function) : List CallSite :=
  let parameters := walkAll ⟨[], []⟩ (function.parameters.map (·.pattern))
  ((Code.block function.statements).walk parameters).sites.reverse

end ShaderCalls.Source
