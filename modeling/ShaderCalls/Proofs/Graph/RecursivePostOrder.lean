import ShaderCalls.Proofs.Graph.PostOrderRun

/-!
# The walk refines plain recursion

Plain recursion marks a node, visits its unmarked children in their order, and then emits the node
if it has a declaration.  The walk with its explicit stack gives the same list or the same error for
every graph whose links lead to nodes, with cycles or without, whoever made the graph.
-/

namespace ShaderCalls

variable {δ ε β : Type}

/-! ## The plain traversal -/

namespace PostOrder

/-- What a traversal has done that found some nodes marked: those nodes are marked still. -/
structure Walked (β : Type) (marked : List Nat) where
  after : List Nat
  emitted : List β
  keeps : ∀ position ∈ marked, position ∈ after

/-- Emits a node behind others if it has a declaration. -/
def emit (extract : FunctionId → δ → Except ε β) (emitted : List β) (node : Node δ) :
    Except ε (List β) :=
  match node.declaration with
  | some declaration => do
    let record ← extract node.id declaration
    .ok (emitted ++ [record])
  | none => .ok emitted

/-- Visits the nodes of a queue one after the other.  A node that is not marked is marked, then its
children are visited, then it is emitted. -/
def walk (store : NodeStore δ) (extract : FunctionId → δ → Except ε β) :
    List Nat → (marked : List Nat) → List β → Except ε (Walked β marked)
  | [], marked, emitted => .ok ⟨marked, emitted, fun _ hmarked => hmarked⟩
  | position :: queue, marked, emitted =>
    if position ∈ marked then walk store extract queue marked emitted
    else
      match _ : store.node? position with
      | none => walk store extract queue marked emitted
      | some node => do
        let inner ← walk store extract node.children (position :: marked) emitted
        let emitted ← emit extract inner.emitted node
        let rest ← walk store extract queue inner.after emitted
        .ok ⟨rest.after, rest.emitted, fun other hother =>
          rest.keeps other (inner.keeps other (List.mem_cons_of_mem position hother))⟩
termination_by queue marked => ((unmarked store marked).card, queue.length)
decreasing_by
  · exact Prod.Lex.right _ (by simp)
  · exact Prod.Lex.right _ (by simp)
  · exact Prod.Lex.left _ _ (card_unmarked_lt ‹_› ‹_›)
  · exact Prod.Lex.left _ _
      ((card_unmarked_le store inner.keeps).trans_lt (card_unmarked_lt ‹_› ‹_›))

section Visit

variable {store : NodeStore δ} {extract : FunctionId → δ → Except ε β}
variable {position : Nat} {queue marked : List Nat} {emitted : List β}

theorem walk_nil :
    walk store extract [] marked emitted = .ok ⟨marked, emitted, fun _ hmarked => hmarked⟩ := by
  rw [walk]

theorem walk_of_mem (hmarked : position ∈ marked) :
    walk store extract (position :: queue) marked emitted =
      walk store extract queue marked emitted := by
  rw [walk, if_pos hmarked]

theorem walk_of_some {node : Node δ} (hfresh : position ∉ marked)
    (hnode : store.node? position = some node) :
    walk store extract (position :: queue) marked emitted =
      (walk store extract node.children (position :: marked) emitted).bind fun inner =>
        (emit extract inner.emitted node).bind fun emitted =>
          (walk store extract queue inner.after emitted).map fun rest =>
            ⟨rest.after, rest.emitted, fun other hother =>
              rest.keeps other (inner.keeps other (List.mem_cons_of_mem position hother))⟩ := by
  rw [walk, if_neg hfresh]
  split
  · next hnone => exact absurd (hnode.symm.trans hnone) (by simp)
  · next other hother =>
      cases hnode.symm.trans hother
      rfl

theorem emit_eq {node : Node δ} (hnode : store.node? position = some node) :
    emit extract emitted node =
      (extractAll store extract [position]).map fun records => emitted ++ records := by
  cases hdeclaration : node.declaration with
  | none =>
      have hnone : declaredAt? store position = none := by
        simp [declaredAt?, hnode, hdeclaration]
      simp [emit, hdeclaration, extractAll, hnone, pure, Except.pure, Except.map]
  | some declaration =>
      have hsome : declaredAt? store position = some (node.id, declaration) := by
        simp [declaredAt?, hnode, hdeclaration]
      simp only [emit, hdeclaration, extractAll, hsome, List.filterMap_cons, List.filterMap_nil,
        List.mapM_cons, List.mapM_nil]
      cases extract node.id declaration <;> rfl

end Visit

/-- The recursion extracts from the declared nodes among those that it lists. -/
theorem walk_eq {store : NodeStore δ} {extract : FunctionId → δ → Except ε β}
    {queue marked after order : List Nat} (hvisits : Visits store queue marked after order)
    (emitted : List β) :
    walk store extract queue marked emitted =
      (extractAll store extract order).map fun records =>
        ⟨after, emitted ++ records, fun position hmarked =>
          (hvisits.mem_after position).mpr (Or.inl hmarked)⟩ := by
  induction hvisits generalizing emitted with
  | nil => simp [walk_nil, Except.map]
  | skip hmarked _ ih => rw [walk_of_mem hmarked, ih]
  | @enter child queue marked between after inner order node hfresh hnode _ _ ihInner ihRest =>
      have hcons : extractAll store extract (child :: order) =
          (extractAll store extract [child]).bind fun first =>
            (extractAll store extract order).map fun second => first ++ second :=
        extractAll_append [child] order
      rw [walk_of_some hfresh hnode, ihInner, extractAll_append, hcons]
      simp only [emit_eq hnode]
      cases extractAll store extract inner with
      | error error => rfl
      | ok records =>
          cases extractAll store extract [child] with
          | error error => rfl
          | ok last =>
              simp only [Except.bind, Except.map, ihRest]
              cases extractAll store extract order with
              | error error => rfl
              | ok others => simp

end PostOrder

namespace CallGraph

open PostOrder

/-- What plain recursion emits from the root of a graph. -/
def plainPostOrder (graph : CallGraph δ) (extract : FunctionId → δ → Except ε β) :
    Except ε (List β) :=
  (walk graph.store extract [graph.root] [] []).map (·.emitted)

/-- The root of a graph and the ends of its links are positions of nodes. -/
structure Valid (graph : CallGraph δ) : Prop where
  root_lt : graph.root < graph.store.size
  children_lt : ∀ node ∈ graph.store.nodes, ∀ child ∈ node.children, child < graph.store.size

/-- Positions of nodes in the order in which plain recursion leaves them: those that the root
reaches, each once. -/
structure IsPlainOrder (graph : CallGraph δ) (order : List Nat) : Prop where
  nodup : order.Nodup
  mem_iff : ∀ position,
    position ∈ order ↔ Relation.ReflTransGen (Child graph.store) graph.root position
  /-- An extraction that never fails lists the declared nodes of the order. -/
  declared : graph.plainPostOrder (fun id declaration =>
      (.ok (id, declaration) : Except Empty (FunctionId × δ))) =
    .ok (order.filterMap (declaredAt? graph.store))

variable {graph : CallGraph δ} {after order : List Nat}

theorem plainPostOrder_eq (extract : FunctionId → δ → Except ε β)
    (hvisits : Visits graph.store [graph.root] [] after order) :
    graph.plainPostOrder extract = extractAll graph.store extract order := by
  rw [plainPostOrder, walk_eq hvisits]
  cases extractAll graph.store extract order <;> rfl

theorem isPlainOrder (hvisits : Visits graph.store [graph.root] [] after order) :
    graph.IsPlainOrder order where
  nodup := hvisits.nodup
  mem_iff := hvisits.mem_iff_reached
  declared := by
    rw [plainPostOrder_eq _ hvisits]
    exact mapM_eq_ok (List.forall₂_same.mpr fun _ _ => rfl)

theorem Valid.exists_visits (hgraph : graph.Valid) :
    ∃ after order, Visits graph.store [graph.root] [] after order := by
  have hnode : ∀ position < graph.store.size, (graph.store.node? position).isSome := by
    intro position hposition
    simpa [NodeStore.node?, NodeStore.size] using hposition
  refine Visits.exists_of_valid (fun position child hchild => ?_) _ _ ?_
  · cases hparent : graph.store.node? position with
    | none => simp [Child, NodeStore.children, hparent] at hchild
    | some node =>
        have hlinked := (child_iff hparent).mp hchild
        exact hnode child (hgraph.children_lt node (List.mem_of_getElem? hparent) child hlinked)
  · exact List.forall_mem_singleton.mpr (hnode graph.root hgraph.root_lt)

/-- The walk over a graph, however many more rounds than its bound it may take, goes on until no
node is left, and gives what plain recursion gives.  This is the list of the records of the declared
nodes that the root reaches, each once, or the error of the first of them whose record cannot be
extracted. -/
theorem postOrder_eq_plainPostOrder (graph : CallGraph δ)
    (extract : FunctionId → δ → Except ε β) (hgraph : graph.Valid) :
    (∃ marked, ∀ spare,
      run graph.store extract (roundBound graph.store + spare)
          ⟨[(graph.root, 0)], [graph.root], []⟩ =
        (graph.plainPostOrder extract).map fun records => ⟨[], marked, records⟩) ∧
    graph.postOrder extract = graph.plainPostOrder extract ∧
    ∃ order, graph.IsPlainOrder order ∧
      (∀ records, graph.postOrder extract = .ok records ↔
        List.Forall₂ (fun declared record => extract declared.1 declared.2 = .ok record)
          (order.filterMap (declaredAt? graph.store)) records) ∧
      ∀ error, graph.postOrder extract = .error error ↔
        FailsFirst (fun declared => extract declared.1 declared.2)
          (order.filterMap (declaredAt? graph.store)) error := by
  obtain ⟨after, order, hvisits⟩ := hgraph.exists_visits
  have hplain := plainPostOrder_eq extract hvisits
  refine ⟨⟨after, fun spare => ?_⟩, ?_, order, isPlainOrder hvisits, fun records => ?_,
    fun error => ?_⟩
  · rw [hplain]
    exact run_root hvisits spare
  · rw [hplain]
    exact postOrder_eq hvisits
  · rw [postOrder_eq hvisits]
    exact mapM_eq_ok_iff
  · rw [postOrder_eq hvisits]
    exact mapM_eq_error_iff

/-- Two functions that call each other and themselves, an intrinsic that one of them calls, and a
function that nothing calls. -/
def tangledGraph : CallGraph String where
  store := ⟨[⟨⟨"shaders", "f"⟩, some "fn f() {}", [0, 1], [0, 1, 3]⟩,
    ⟨⟨"shaders", "g"⟩, some "fn g() {}", [2, 0, 1], [0, 1]⟩,
    ⟨⟨"shaders", "sqrt"⟩, none, [], [1]⟩,
    ⟨⟨"shaders", "h"⟩, some "fn h() {}", [0], []⟩],
    [(⟨"shaders", "h"⟩, 3), (⟨"shaders", "sqrt"⟩, 2), (⟨"shaders", "g"⟩, 1),
      (⟨"shaders", "f"⟩, 0)]⟩
  root := 0

/-- The walk ends in spite of the cycles, and plain recursion with it. -/
theorem tangledGraph_plainPostOrder :
    tangledGraph.Valid ∧
      tangledGraph.plainPostOrder (fun _ body => (.ok body : Except Empty String)) =
        .ok ["fn g() {}", "fn f() {}"] := by
  have hvalid : tangledGraph.Valid := ⟨by decide, by decide⟩
  refine ⟨hvalid, ?_⟩
  rw [← (postOrder_eq_plainPostOrder tangledGraph _ hvalid).2.1]
  rfl

end CallGraph

end ShaderCalls
