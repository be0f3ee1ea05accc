import ShaderCalls.Graph.Callees
import ShaderCalls.Graph.NodeStore

/-!
# Building a call graph

The graph grows depth first from its root.  The builder keeps the chain of functions that are being
expanded; a call back into that chain is a cycle, and a call of a function that is already expanded
is only recorded.
-/

namespace ShaderCalls

namespace Builder

/-- A function on the chain, and the callees it has yet to visit. -/
structure Frame where
  node : Nat
  queue : List FunctionId

structure State where
  store : NodeStore Declaration
  /-- The chain of functions that are being expanded, innermost first. -/
  stack : List Frame
  active : List Nat
  expanded : List Nat

variable (declaration? : FunctionId → Option Declaration)

/-- The callees of a node; none for a function without a declaration. -/
def callees (store : NodeStore Declaration) (position : Nat) :
    Except DiscoveryError (List FunctionId) :=
  match store.node? position with
  | some node =>
    match node.declaration with
    | some declaration => declaration.callees node.id
    | none => .ok []
  | none => .ok []

/-- Puts a node on the chain with its callees queued. -/
def enter (state : State) (position : Nat) : Except DiscoveryError State := do
  let queue ← callees state.store position
  .ok { state with
    stack := ⟨position, queue⟩ :: state.stack
    active := position :: state.active }

/-- The chain from a function down to the current one, if the function is on it. -/
def activeCycle (state : State) (callee : FunctionId) : Option (List FunctionId) := do
  let position ← state.store.lookup? callee
  if position ∈ state.active then
    let inner := state.stack.takeWhile (·.node != position)
    let start ← state.stack.find? (·.node = position)
    some ((inner ++ [start]).reverse.filterMap fun frame =>
      (state.store.node? frame.node).map (·.id))
  else none

/-- One round: the innermost function visits its next callee, or leaves the chain when it has none.
The result is `none` when the chain is empty. -/
def step (state : State) : Except DiscoveryError (Option State) :=
  match state.stack with
  | [] => .ok none
  | ⟨current, []⟩ :: outer =>
    .ok (some { state with
      stack := outer
      active := state.active.filter (· != current)
      expanded := current :: state.expanded })
  | ⟨current, callee :: queue⟩ :: outer =>
    match activeCycle state callee with
    | some cycle => .error (.cyclicCall cycle)
    | none =>
      let (store, child) := state.store.getOrCreate callee declaration?
      let state := { state with store, stack := ⟨current, queue⟩ :: outer }
      if (store.node? child).any (·.isResolved) then
        let state := { state with store := store.link current child }
        if child ∈ state.expanded then .ok (some state)
        else do
          let state ← enter state child
          .ok (some state)
      else .ok (some state)

/-- Repeats `step` until the chain is empty, at most `rounds` times. -/
def run : Nat → State → Except DiscoveryError State
  | 0, state => .ok state
  | rounds + 1, state => do
    match ← step declaration? state with
    | some state => run rounds state
    | none => .ok state

/-- The call graph of everything that is reachable from a root, or as much of it as a number of
rounds gives. -/
def buildWithin (rounds : Nat) (root : FunctionId) :
    Except DiscoveryError (CallGraph Declaration) := do
  let (store, position) := NodeStore.empty.getOrCreate root declaration?
  if (store.node? position).any (·.isResolved) then
    let state ← enter ⟨store, [], [], []⟩ position
    let state ← run declaration? rounds state
    .ok ⟨state.store, position⟩
  else .error (.rootResolution root)

/-- A bound on the rounds of any run: every declared function is entered at most once, visits each
of its callees once and leaves the chain once. -/
def roundBound (resolver : Resolver) : Nat :=
  (resolver.declared.map fun id =>
    (((resolver.declaration? id).map (·.calls.length)).getD 0) + 1).foldr (· + ·) 0

/-- The call graph of everything that is reachable from a root. -/
def build (resolver : Resolver) (root : FunctionId) :
    Except DiscoveryError (CallGraph Declaration) :=
  buildWithin resolver.declaration? (roundBound resolver) root

end Builder

end ShaderCalls
