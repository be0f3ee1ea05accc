import ShaderCalls.Graph.NodeStore

/-!
# Post-order

The nodes of a call graph that its root reaches, callees before callers, each once.  A node is
marked when it is met, so a graph with cycles is walked to its end too.
-/

namespace ShaderCalls

variable {δ ε β : Type}

namespace PostOrder

structure State (β : Type) where
  /-- The nodes that are being visited, innermost first, each with the index of the next child. -/
  stack : List (Nat × Nat)
  marked : List Nat
  emitted : List β

variable (store : NodeStore δ) (extract : FunctionId → δ → Except ε β)

/-- One round: the innermost node goes on to its next child, or is emitted when it has none.  The
result is `none` when no node is left. -/
def step (state : State β) : Except ε (Option (State β)) :=
  match state.stack with
  | [] => .ok none
  | (position, index) :: outer =>
    match store.node? position with
    | none => .ok (some { state with stack := outer })
    | some node =>
      match node.children[index]? with
      | some child =>
        let stack := (position, index + 1) :: outer
        if child ∈ state.marked then .ok (some { state with stack })
        else .ok (some { state with stack := (child, 0) :: stack, marked := child :: state.marked })
      | none =>
        match node.declaration with
        | some declaration => do
          let emitted ← extract node.id declaration
          .ok (some { state with stack := outer, emitted := state.emitted ++ [emitted] })
        | none => .ok (some { state with stack := outer })

/-- Repeats `step` until no node is left, at most `rounds` times. -/
def run : Nat → State β → Except ε (State β)
  | 0, state => .ok state
  | rounds + 1, state => do
    match ← step store extract state with
    | some state => run rounds state
    | none => .ok state

/-- A bound on the rounds of any walk: every node is visited at most once, goes to each of its
children once and is emitted once. -/
def roundBound : Nat :=
  (store.nodes.map (·.children.length + 1)).foldr (· + ·) 0

end PostOrder

/-- What is extracted of the declared nodes that the root of a graph reaches, in post-order. -/
def CallGraph.postOrder (graph : CallGraph δ) (extract : FunctionId → δ → Except ε β) :
    Except ε (List β) := do
  let state ← PostOrder.run graph.store extract (PostOrder.roundBound graph.store)
    ⟨[(graph.root, 0)], [graph.root], []⟩
  .ok state.emitted

end ShaderCalls
