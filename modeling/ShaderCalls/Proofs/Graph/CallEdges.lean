import ShaderCalls.Proofs.Graph.CompleteGraph

/-!
# The edges of a call graph

The edges of a graph name each link of its store once.  In a complete graph the links are the calls
between the functions that the root reaches; an intrinsic that one of these functions calls has a
node too, but no link begins or ends there.
-/

namespace ShaderCalls

/-- The identity has a node, which is linked to nothing. -/
def NodeStore.Isolated {δ : Type} (store : NodeStore δ) (id : FunctionId) : Prop :=
  ∃ position, store.idAt? position = some id ∧
    store.children position = [] ∧ store.parents position = []

namespace CallGraph

variable {δ : Type} {graph : CallGraph δ}

theorem mem_edges_iff {caller callee : FunctionId} :
    (caller, callee) ∈ graph.edges ↔ graph.store.Linked caller callee := by
  rw [edges, List.mem_flatMap]
  constructor
  · rintro ⟨node, hnode, hedge⟩
    obtain ⟨position, hposition⟩ := List.mem_iff_getElem?.mp hnode
    obtain ⟨child, hchild, hids⟩ := List.mem_filterMap.mp hedge
    obtain ⟨called, hcalled, hpair⟩ := Option.map_eq_some_iff.mp hids
    obtain ⟨rfl, rfl⟩ := Prod.mk.inj hpair
    refine ⟨position, child, ?_, ?_, ?_⟩
    · simp [NodeStore.idAt?, NodeStore.node?, hposition]
    · simp [NodeStore.idAt?, hcalled]
    · simpa [NodeStore.children, NodeStore.node?, hposition] using hchild
  · rintro ⟨position, child, hcaller, hcallee, hmem⟩
    obtain ⟨node, hnode, rfl⟩ := NodeStore.idAt?_eq_some_iff.mp hcaller
    obtain ⟨called, hcalled, rfl⟩ := NodeStore.idAt?_eq_some_iff.mp hcallee
    refine ⟨node, List.mem_of_getElem? hnode, List.mem_filterMap.mpr ⟨child, ?_, ?_⟩⟩
    · simpa [NodeStore.children, hnode] using hmem
    · simp [hcalled]

/-- Each link is named once: nodes differ in their identities, and so do the children of a node. -/
theorem nodup_edges (hstore : graph.store.WellFormed) : graph.edges.Nodup := by
  have hdistinct : graph.store.nodes.Pairwise fun left right => left.id ≠ right.id :=
    List.pairwise_map.mp hstore.distinct
  rw [edges, List.nodup_flatMap]
  constructor
  · intro node hnode
    obtain ⟨position, hposition⟩ := List.mem_iff_getElem?.mp hnode
    have hchildren : node.children.Nodup := by
      simpa [NodeStore.children, NodeStore.node?, hposition] using hstore.nodup_children position
    refine hchildren.filterMap fun left right pair hleft hright => ?_
    obtain ⟨leftNode, hleftNode, hpair⟩ := Option.map_eq_some_iff.mp hleft
    obtain ⟨rightNode, hrightNode, rfl⟩ := Option.map_eq_some_iff.mp hright
    have hleftId : graph.store.idAt? left = some rightNode.id := by
      simpa [NodeStore.idAt?, hleftNode] using (Prod.mk.inj hpair).2
    have hrightId : graph.store.idAt? right = some rightNode.id := by
      simp [NodeStore.idAt?, hrightNode]
    exact hstore.idAt?_inj hleftId hrightId
  · refine hdistinct.imp fun {left right} hne => List.disjoint_left.mpr ?_
    intro pair hleft hright
    obtain ⟨_, _, hleftPair⟩ := List.mem_filterMap.mp hleft
    obtain ⟨_, _, hrightPair⟩ := List.mem_filterMap.mp hright
    obtain ⟨_, _, rfl⟩ := Option.map_eq_some_iff.mp hleftPair
    obtain ⟨_, _, hsame⟩ := Option.map_eq_some_iff.mp hrightPair
    exact hne (Prod.mk.inj hsame).1.symm

end CallGraph

namespace IsComplete

variable {declaration? : FunctionId → Option Declaration} {root : FunctionId}
variable {finished : List FunctionId} {graph : CallGraph Declaration}

/-- Every callee of a function that the root reaches has a node, intrinsic or not. -/
theorem has_callee (hgraph : IsComplete declaration? root finished graph)
    {caller callee : FunctionId} (hreaches : Reaches declaration? root caller)
    (hcalls : Calls declaration? caller callee) : graph.store.Has callee := by
  obtain ⟨before, after, hsplit⟩ := List.append_of_mem ((hgraph.mem_iff caller).mpr hreaches)
  obtain ⟨callees, hcallees, hrecorded⟩ := hgraph.settled.of_split hsplit
  exact (hrecorded callee ((hcallees.mem_iff callee).mpr hcalls)).1

/-- Links are calls between declared functions, so the node of an intrinsic has none. -/
theorem isolated_of_undeclared (hgraph : IsComplete declaration? root finished graph)
    {id : FunctionId} (hid : graph.store.Has id) (hundeclared : ¬ Declared declaration? id) :
    graph.store.Isolated id := by
  obtain ⟨position, hposition⟩ := hid
  have hlinked : ∀ {caller callee}, graph.store.Linked caller callee →
      CallsDeclared declaration? caller callee :=
    fun hlinked => ((hgraph.linked_iff _ _).mp hlinked).2
  refine ⟨position, hposition, ?_, ?_⟩
  · refine List.eq_nil_iff_forall_not_mem.mpr fun child hchild => ?_
    have hparent := (hgraph.wellFormed.mem_children_iff position child).mp hchild
    obtain ⟨callee, hcallee⟩ :=
      Option.isSome_iff_exists.mp (NodeStore.isSome_idAt?_of_mem_parents hparent)
    exact hundeclared (hlinked ⟨position, child, hposition, hcallee, hchild⟩).1.declared
  · refine List.eq_nil_iff_forall_not_mem.mpr fun parent hparent => ?_
    have hchild := (hgraph.wellFormed.mem_children_iff parent position).mpr hparent
    obtain ⟨caller, hcaller⟩ :=
      Option.isSome_iff_exists.mp (NodeStore.isSome_idAt?_of_mem_children hchild)
    exact hundeclared (hlinked ⟨parent, position, hcaller, hposition, hchild⟩).2

end IsComplete

end ShaderCalls
