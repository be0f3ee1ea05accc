import ShaderCalls.FunctionId

/-!
# Node stores and call graphs

A store holds one node for each identity it was asked for.  Nodes are addressed by the position at
which they were created, which an index finds by the identity.
-/

namespace ShaderCalls

variable {δ : Type}

/-- A function in a call graph. -/
structure Node (δ : Type) where
  id : FunctionId
  /-- None for a function without a declaration. -/
  declaration : Option δ
  /-- The functions it calls, in the order of their first calls. -/
  children : List Nat
  /-- The functions that call it. -/
  parents : List Nat

def Node.isResolved (node : Node δ) : Bool :=
  node.declaration.isSome

structure NodeStore (δ : Type) where
  nodes : List (Node δ)
  /-- The positions entered under identities; of two entries under one identity the first counts. -/
  index : List (FunctionId × Nat)

namespace NodeStore

def empty : NodeStore δ :=
  ⟨[], []⟩

def size (store : NodeStore δ) : Nat :=
  store.nodes.length

/-- The position that is entered under an identity. -/
def lookup? (store : NodeStore δ) (id : FunctionId) : Option Nat :=
  store.index.lookup id

def node? (store : NodeStore δ) (position : Nat) : Option (Node δ) :=
  store.nodes[position]?

/-- A store with one more node, which is entered under its identity. -/
def push (store : NodeStore δ) (node : Node δ) : NodeStore δ where
  nodes := store.nodes ++ [node]
  index := (node.id, store.size) :: store.index

/-- The position of the node of an identity, which is created on first sight: only then is the
declaration of the identity asked for. -/
def getOrCreate (store : NodeStore δ) (id : FunctionId) (declaration? : FunctionId → Option δ) :
    NodeStore δ × Nat :=
  match store.lookup? id with
  | some position => (store, position)
  | none => (store.push ⟨id, declaration? id, [], []⟩, store.size)

/-- Adds an element at the end of a list that does not hold it. -/
def insertOnce (elements : List Nat) (element : Nat) : List Nat :=
  if element ∈ elements then elements else elements ++ [element]

/-- Records a call in both directions; a call that is recorded stays as it is. -/
def link (store : NodeStore δ) (caller callee : Nat) : NodeStore δ :=
  let withChild := store.nodes.modify caller fun node =>
    { node with children := insertOnce node.children callee }
  { store with
    nodes := withChild.modify callee fun node =>
      { node with parents := insertOnce node.parents caller } }

end NodeStore

/-- A call graph with the position of its root. -/
structure CallGraph (δ : Type) where
  store : NodeStore δ
  root : Nat

/-- The pairs of a caller and its callee, in the order in which the callers were created. -/
def CallGraph.edges (graph : CallGraph δ) : List (FunctionId × FunctionId) :=
  graph.store.nodes.flatMap fun node =>
    node.children.filterMap fun child =>
      (graph.store.node? child).map fun callee => (node.id, callee.id)

end ShaderCalls
