import Mathlib.Data.List.Chain
import Mathlib.Logic.Relation
import ShaderCalls.Shader.Declaration

/-!
# The call relation

What the declarations alone say about calls, without any graph: which function calls which, what a
root reaches, and what a cycle of calls is.  The graph builder and the walk over its graph are
measured against these relations.
-/

namespace ShaderCalls

variable (declaration? : FunctionId → Option Declaration)

def Declared (id : FunctionId) : Prop :=
  (declaration? id).isSome

/-- A call expression in the body of the caller resolves to the callee. -/
def Calls (caller callee : FunctionId) : Prop :=
  ∃ declaration, declaration? caller = some declaration ∧
    ∃ call ∈ declaration.calls, call.callee = some callee

/-- The callee of a call has a declaration too; a call of an intrinsic is left out. -/
def CallsDeclared (caller callee : FunctionId) : Prop :=
  Calls declaration? caller callee ∧ Declared declaration? callee

def Reaches : FunctionId → FunctionId → Prop :=
  Relation.ReflTransGen (CallsDeclared declaration?)

/-- Every call expression of every function that a root reaches resolves. -/
def CallsResolve (root : FunctionId) : Prop :=
  ∀ id declaration, Reaches declaration? root id → declaration? id = some declaration →
    ∀ call ∈ declaration.calls, call.callee.isSome

/-- No function that a root reaches calls itself, directly or through others. -/
def Acyclic (root : FunctionId) : Prop :=
  ∀ id, Reaches declaration? root id →
    ¬ Relation.TransGen (CallsDeclared declaration?) id id

/-- Distinct declared functions, each of which calls the next one, and the last one the first. -/
structure IsCallCycle (cycle : List FunctionId) : Prop where
  nonempty : cycle ≠ []
  nodup : cycle.Nodup
  declared : ∀ id ∈ cycle, Declared declaration? id
  chain : cycle.IsChain (Calls declaration?)
  closed : ∀ last ∈ cycle.getLast?, ∀ first ∈ cycle.head?, Calls declaration? last first

/-- A declaration with nothing but calls of some functions. -/
def Declaration.calling (callees : List FunctionId) : Declaration where
  calls := callees.map fun callee => ⟨callee.text, some callee⟩
  attributes := []
  parameters := []
  result := none
  body := ""

variable {declaration?}

theorem declared_of_eq_some {id : FunctionId} {declaration : Declaration}
    (hdeclaration : declaration? id = some declaration) : Declared declaration? id := by
  simp [Declared, hdeclaration]

theorem Calls.declared {caller callee : FunctionId}
    (hcalls : Calls declaration? caller callee) : Declared declaration? caller := by
  obtain ⟨declaration, hdeclaration, _⟩ := hcalls
  exact declared_of_eq_some hdeclaration

theorem Reaches.declared {root id : FunctionId} (hroot : Declared declaration? root)
    (hreaches : Reaches declaration? root id) : Declared declaration? id := by
  induction hreaches with
  | refl => exact hroot
  | tail _ hcalls _ => exact hcalls.2

/-- A cycle of calls leads from its first function back to it. -/
theorem IsCallCycle.transGen_head {cycle : List FunctionId} {first : FunctionId}
    (hcycle : IsCallCycle declaration? cycle) (hfirst : first ∈ cycle.head?) :
    Relation.TransGen (CallsDeclared declaration?) first first := by
  have hchain : cycle.IsChain (CallsDeclared declaration?) :=
    hcycle.chain.imp_of_mem_imp fun _ callee _ hcallee hcalls =>
      ⟨hcalls, hcycle.declared callee hcallee⟩
  have hlast : cycle.getLast hcycle.nonempty ∈ cycle.getLast? := by
    simp [List.getLast?_eq_some_getLast hcycle.nonempty]
  have hhead : cycle.head hcycle.nonempty = first := by
    rw [List.head?_eq_some_head hcycle.nonempty] at hfirst
    simpa using hfirst
  have hpath : Reaches declaration? first (cycle.getLast hcycle.nonempty) := by
    rw [← hhead]
    exact List.relationReflTransGen_of_exists_isChain cycle hchain hcycle.nonempty
  have hdeclared : Declared declaration? first :=
    hcycle.declared first (List.mem_of_head? hfirst)
  exact Relation.TransGen.tail' hpath ⟨hcycle.closed _ hlast first hfirst, hdeclared⟩

end ShaderCalls
