import ShaderCalls.Proofs.Graph.Traversal
import ShaderCalls.Proofs.Lists

/-!
# The loop walks in recursive post-order

The loop with its explicit stack lists the nodes of the recursive traversal, in the same order, and
what it emits is extracted of the declared ones among them.  Its bound on the rounds is enough for
every graph whose links lead to nodes.
-/

namespace ShaderCalls

namespace PostOrder

variable {δ ε β : Type} {store : NodeStore δ} {extract : FunctionId → δ → Except ε β}

/-- The identity and the declaration of a declared node. -/
def declaredAt? (store : NodeStore δ) (position : Nat) : Option (FunctionId × δ) :=
  (store.node? position).bind fun node => node.declaration.map fun declaration =>
    (node.id, declaration)

/-- What is extracted of the declared nodes among some positions, or the first error. -/
def extractAll (store : NodeStore δ) (extract : FunctionId → δ → Except ε β)
    (positions : List Nat) : Except ε (List β) :=
  (positions.filterMap (declaredAt? store)).mapM fun declared => extract declared.1 declared.2

@[simp]
theorem extractAll_nil : extractAll store extract [] = .ok [] := rfl

theorem extractAll_append (left right : List Nat) :
    extractAll store extract (left ++ right) =
      (extractAll store extract left).bind fun first =>
        (extractAll store extract right).map fun second => first ++ second := by
  rw [extractAll, List.filterMap_append, List.mapM_append]
  rfl

/-- The rounds that visiting a queue takes: one for each node of the queue, and for each listed node
one for each of its children and one for leaving it. -/
def visitRounds (store : NodeStore δ) (queue order : List Nat) : Nat :=
  queue.length + (order.map fun position => (store.children position).length + 1).sum

/-! ## Single rounds -/

section Rounds

variable {state : State β} {position index : Nat} {outer : List (Nat × Nat)} {node : Node δ}

theorem step_skip {child : Nat} (hstack : state.stack = (position, index) :: outer)
    (hnode : store.node? position = some node) (hchild : node.children[index]? = some child)
    (hmarked : child ∈ state.marked) :
    step store extract state =
      .ok (some { state with stack := (position, index + 1) :: outer }) := by
  simp only [step, hstack, hnode, hchild, if_pos hmarked]

theorem step_enter {child : Nat} (hstack : state.stack = (position, index) :: outer)
    (hnode : store.node? position = some node) (hchild : node.children[index]? = some child)
    (hfresh : child ∉ state.marked) :
    step store extract state = .ok (some
      { state with
        stack := (child, 0) :: (position, index + 1) :: outer
        marked := child :: state.marked }) := by
  simp only [step, hstack, hnode, hchild, if_neg hfresh]

theorem step_leave (hstack : state.stack = (position, index) :: outer)
    (hnode : store.node? position = some node) (hchild : node.children[index]? = none) :
    step store extract state =
      (extractAll store extract [position]).map fun records => some
        { state with stack := outer, emitted := state.emitted ++ records } := by
  cases hdeclaration : node.declaration with
  | none =>
      have hnone : declaredAt? store position = none := by
        simp [declaredAt?, hnode, hdeclaration]
      simp [step, hstack, hnode, hchild, hdeclaration, extractAll, hnone, pure, Except.pure,
        Except.map]
  | some declaration =>
      have hsome : declaredAt? store position = some (node.id, declaration) := by
        simp [declaredAt?, hnode, hdeclaration]
      simp only [step, hstack, hnode, hchild, hdeclaration, extractAll, hsome,
        List.filterMap_cons, List.filterMap_nil, List.mapM_cons, List.mapM_nil]
      cases extract node.id declaration <;> rfl

/-- A node that has gone through its children is left in one round. -/
theorem run_leave (hnode : store.node? position = some node) (rounds : Nat) (marked : List Nat)
    (emitted : List β) :
    run store extract (rounds + 1)
        ⟨(position, node.children.length) :: outer, marked, emitted⟩ =
      (extractAll store extract [position]).bind fun records =>
        run store extract rounds ⟨outer, marked, emitted ++ records⟩ := by
  have hleave : step store extract ⟨(position, node.children.length) :: outer, marked, emitted⟩ =
      (extractAll store extract [position]).map fun records =>
        some ⟨outer, marked, emitted ++ records⟩ :=
    step_leave rfl hnode (by simp)
  rw [run, hleave]
  cases extractAll store extract [position] <;> rfl

theorem run_nil (rounds : Nat) (marked : List Nat) (emitted : List β) :
    run store extract rounds ⟨[], marked, emitted⟩ = .ok ⟨[], marked, emitted⟩ := by
  cases rounds <;> rfl

end Rounds

/-! ## Whole runs -/

/-- Running through the rest of a node's children lists them in recursive post-order. -/
theorem run_visits {queue marked after order : List Nat}
    (hvisits : Visits store queue marked after order) {position : Nat} {node : Node δ}
    {seen : List Nat} (hnode : store.node? position = some node)
    (hchildren : node.children = seen ++ queue) (rounds : Nat) (outer : List (Nat × Nat))
    (emitted : List β) :
    run store extract (visitRounds store queue order + rounds)
        ⟨(position, seen.length) :: outer, marked, emitted⟩ =
      (extractAll store extract order).bind fun records =>
        run store extract rounds
          ⟨(position, node.children.length) :: outer, after, emitted ++ records⟩ := by
  induction hvisits generalizing position node seen rounds outer emitted with
  | nil => simp [visitRounds, hchildren, Except.bind]
  | @skip child queue marked after order hmarked hrest ih =>
      have hchild : node.children[seen.length]? = some child := by simp [hchildren]
      have hcount : visitRounds store (child :: queue) order + rounds =
          visitRounds store queue order + rounds + 1 := by
        simp only [visitRounds, List.length_cons]
        omega
      rw [hcount, run, step_skip rfl hnode hchild hmarked]
      have hseen : node.children = (seen ++ [child]) ++ queue := by simp [hchildren]
      simpa [bind, Except.bind] using ih hnode hseen rounds outer emitted
  | @enter child queue marked between after inner order childNode hfresh hchildNode hinner hrest
      ihInner ihRest =>
      have hchild : node.children[seen.length]? = some child := by simp [hchildren]
      have hsame : store.children child = childNode.children := by
        simp [NodeStore.children, hchildNode]
      have hcount : visitRounds store (child :: queue) (inner ++ child :: order) + rounds =
          visitRounds store childNode.children inner +
            (visitRounds store queue order + rounds + 1) + 1 := by
        simp only [visitRounds, List.length_cons, List.map_append, List.map_cons,
          List.sum_append, List.sum_cons, hsame]
        omega
      have hrun := ihInner hchildNode (List.nil_append _).symm
        (visitRounds store queue order + rounds + 1) ((position, seen.length + 1) :: outer) emitted
      have hsplit : inner ++ child :: order = inner ++ ([child] ++ order) := rfl
      rw [hcount, run, step_enter rfl hnode hchild hfresh, hsplit, extractAll_append,
        extractAll_append]
      simp only [List.length_nil] at hrun
      simp only [bind, Except.bind, hrun]
      cases extractAll store extract inner with
      | error error => rfl
      | ok records =>
          have hseen : node.children = (seen ++ [child]) ++ queue := by simp [hchildren]
          simp only [run_leave hchildNode]
          cases extractAll store extract [child] with
          | error error => rfl
          | ok last =>
              have hrest := ihRest hnode hseen rounds outer (emitted ++ records ++ last)
              simp only [List.length_append, List.length_singleton] at hrest
              simp only [Except.bind, Except.map, hrest]
              cases extractAll store extract order with
              | error error => rfl
              | ok others => simp

/-- Distinct nodes leave and go through their children within the bound of the whole store. -/
theorem sum_children_le_roundBound {order : List Nat} (hnodup : order.Nodup)
    (hnodes : ∀ position ∈ order, (store.node? position).isSome) :
    (order.map fun position => (store.children position).length + 1).sum ≤ roundBound store := by
  have hsubset : order ⊆ List.range store.size := by
    intro position hposition
    obtain ⟨node, hnode⟩ := Option.isSome_iff_exists.mp (hnodes position hposition)
    exact List.mem_range.mpr (List.getElem?_eq_some_iff.mp hnode).1
  have hwhole : (List.range store.size).map (fun position => (store.children position).length + 1) =
      store.nodes.map fun node => node.children.length + 1 := by
    apply List.ext_getElem
    · simp [NodeStore.size]
    · intro position hleft hright
      have hbound : position < store.nodes.length := by simpa using hright
      simp [NodeStore.children, NodeStore.node?, List.getElem?_eq_getElem hbound]
  calc
    (order.map fun position => (store.children position).length + 1).sum
      ≤ ((List.range store.size).map fun position =>
          (store.children position).length + 1).sum :=
        sum_map_le_of_subset hnodup hsubset _
    _ = roundBound store := by
        rw [hwhole]
        rfl

/-- With as many rounds as the bound, or more, the loop goes on until no node is left. -/
theorem run_root {graph : CallGraph δ} {after order : List Nat}
    (hvisits : Visits graph.store [graph.root] [] after order) (spare : Nat) :
    run graph.store extract (roundBound graph.store + spare)
        ⟨[(graph.root, 0)], [graph.root], []⟩ =
      (extractAll graph.store extract order).map fun records => ⟨[], after, records⟩ := by
  have hbound := sum_children_le_roundBound hvisits.nodup hvisits.node?_isSome
  obtain ⟨inner, node, rfl, hnode, hinner⟩ := hvisits.of_singleton
  have hsame : graph.store.children graph.root = node.children := by
    simp [NodeStore.children, hnode]
  have hrounds : visitRounds graph.store node.children inner + 1 ≤ roundBound graph.store := by
    simp only [List.map_append, List.map_cons, List.map_nil, List.sum_append, List.sum_cons,
      List.sum_nil, hsame] at hbound
    simp only [visitRounds]
    omega
  obtain ⟨left, hleft⟩ := Nat.exists_eq_add_of_le hrounds
  have hcount : roundBound graph.store + spare =
      visitRounds graph.store node.children inner + (left + spare + 1) := by omega
  have hrun : run graph.store extract (roundBound graph.store + spare)
        ⟨[(graph.root, 0)], [graph.root], []⟩ =
      (extractAll graph.store extract inner).bind fun records =>
        run graph.store extract (left + spare + 1)
          ⟨[(graph.root, node.children.length)], after, records⟩ := by
    rw [hcount]
    exact run_visits hinner hnode (List.nil_append _).symm (left + spare + 1) [] []
  rw [hrun, extractAll_append]
  simp only [run_leave hnode, run_nil]
  cases extractAll graph.store extract inner with
  | error error => rfl
  | ok records => cases extractAll graph.store extract [graph.root] <;> rfl

end PostOrder

open PostOrder in
/-- The walk over a graph extracts what the recursive traversal of its root lists. -/
theorem CallGraph.postOrder_eq {δ ε β : Type} {graph : CallGraph δ}
    {extract : FunctionId → δ → Except ε β} {after order : List Nat}
    (hvisits : Visits graph.store [graph.root] [] after order) :
    graph.postOrder extract = extractAll graph.store extract order := by
  rw [CallGraph.postOrder, ← Nat.add_zero (roundBound graph.store), run_root hvisits 0]
  cases extractAll graph.store extract order <;> rfl

end ShaderCalls
