import ShaderCalls.Source.CallSite

/-!
# Positions in code

The parts of some code are numbered in the order in which the walk goes through them, and a position
is the list of numbers that leads from some code to one inside it.  The walk does the same at all
code: it records what stands there, goes through the parts and, behind a block, unbinds what they
bound.  So what it does as a whole is one induction over parts.
-/

namespace ShaderCalls.Source

namespace Code

/-! ## Parts -/

/-- The parts of some code in the order of the walk: an initializer comes before its pattern.  An
item has none, for what it holds is no code of the body around it. -/
def children : Code → List Code
  | .call _ _ parts => parts
  | .method _ _ _ parts => parts
  | .macroUse (some arguments) _ => arguments
  | .macroUse none _ => []
  | .binding _ parts => parts
  | .letStatement pattern initializer => initializer ++ [pattern]
  | .block statements => statements
  | .item _ => []
  | .closure parameters body => parameters ++ [body]
  | .arm pattern guard body => pattern :: (guard ++ [body])
  | .letCondition pattern scrutinee => [pattern, scrutinee]
  | .conditional condition consequent alternative => condition :: consequent :: alternative
  | .whileLoop condition body => [condition, body]
  | .forLoop pattern iterated body => [pattern, iterated, body]
  | .operation first rest => first :: rest
  | .other parts => parts

theorem sizeOf_lt_of_mem_children {code child : Code} (hchild : child ∈ code.children) :
    sizeOf child < sizeOf code := by
  fun_cases children code <;> simp only [children, List.mem_append, List.mem_cons,
    List.not_mem_nil, or_false] at hchild
  all_goals
    simp only [call.sizeOf_spec, method.sizeOf_spec, macroUse.sizeOf_spec, binding.sizeOf_spec,
      letStatement.sizeOf_spec, block.sizeOf_spec, closure.sizeOf_spec, arm.sizeOf_spec,
      letCondition.sizeOf_spec, conditional.sizeOf_spec, whileLoop.sizeOf_spec, forLoop.sizeOf_spec,
      operation.sizeOf_spec, other.sizeOf_spec, Option.some.sizeOf_spec]
    grind [→ List.sizeOf_lt_of_mem]

/-- What holds of code when it holds of its parts holds of all code. -/
@[elab_as_elim]
theorem inductionOnChildren {motive : Code → Prop} (code : Code)
    (step : ∀ code, (∀ child ∈ code.children, motive child) → motive code) : motive code :=
  step code fun child hchild =>
    have := sizeOf_lt_of_mem_children hchild
    inductionOnChildren child step
termination_by sizeOf code

/-- The code at a position. -/
def at? (code : Code) : List Nat → Option Code
  | [] => some code
  | index :: rest => code.children[index]?.bind fun child => child.at? rest

/-! ## The walk as a recursion over parts -/

/-- The site that some code itself is recorded as, where `bound` are the names that are bound. -/
def site? (bound : List String) : Code → Option CallSite
  | .call callee tokens _ => some ⟨Walk.targetOf ⟨[], bound⟩ callee, Token.render tokens⟩
  | .method onSelf name tokens _ =>
    some ⟨if onSelf then .selfMethod name else .method name, Token.render tokens⟩
  | .macroUse none tokens => some ⟨.unsupported, Token.render tokens⟩
  | _ => none

/-- The name that some code itself binds. -/
def boundName? : Code → Option String
  | .binding name _ => some name
  | _ => none

/-- The walk where it comes to the parts of some code. -/
def entered (code : Code) (walk : Walk) : Walk where
  sites := (code.site? walk.bound).toList ++ walk.sites
  bound := code.boundName?.toList ++ walk.bound

/-- The walk behind some code that it came to with the names `bound`. -/
def left (code : Code) (bound : List String) (walk : Walk) : Walk :=
  match code with
  | .block _ => { walk with bound := bound }
  | _ => walk

end Code

theorem walkAll_append (walk : Walk) (before after : List Code) :
    walkAll walk (before ++ after) = walkAll (walkAll walk before) after := by
  induction before generalizing walk with
  | nil => rfl
  | cons code rest ih => exact ih (code.walk walk)

theorem Code.walk_eq (code : Code) (walk : Walk) :
    code.walk walk = code.left walk.bound (walkAll (code.entered walk) code.children) := by
  fun_cases Code.walk walk code <;>
    simp only [Code.children, walkAll_append, walkAll] <;> rfl

end ShaderCalls.Source
