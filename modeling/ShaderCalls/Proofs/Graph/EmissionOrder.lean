import ShaderCalls.Proofs.Graph.CompleteGraph
import ShaderCalls.Proofs.Graph.PostOrderRun

/-!
# The order of emission

The links of a complete graph are the calls below its root, so the recursive post-order of its nodes
is an order of the functions that the root reaches: each once, callees before callers, the root
last.
-/

namespace ShaderCalls

variable {declaration? : FunctionId → Option Declaration} {root : FunctionId}

/-- The functions that a root reaches, each once, every callee before its callers and the root
last. -/
structure IsEmissionOrder (declaration? : FunctionId → Option Declaration) (root : FunctionId)
    (ids : List FunctionId) : Prop where
  nodup : ids.Nodup
  mem_iff : ∀ id, id ∈ ids ↔ Declared declaration? id ∧ Reaches declaration? root id
  callees_before : ∀ before id after, ids = before ++ id :: after →
    ∀ callee, CallsDeclared declaration? id callee → callee ∈ before
  last : ids.getLast? = some root

theorem IsEmissionOrder.declared {ids : List FunctionId}
    (hids : IsEmissionOrder declaration? root ids) :
    ∀ id ∈ ids, Declared declaration? id :=
  fun id hid => ((hids.mem_iff id).mp hid).1

namespace IsComplete

open PostOrder

variable {finished : List FunctionId} {graph : CallGraph Declaration}

/-! ## Links are calls -/

theorem exists_idAt? (hgraph : IsComplete declaration? root finished graph)
    {position child : Nat} (hchild : Child graph.store position child) :
    ∃ id, graph.store.idAt? child = some id := by
  have hparent := (hgraph.wellFormed.mem_children_iff position child).mp hchild
  exact Option.isSome_iff_exists.mp (NodeStore.isSome_idAt?_of_mem_parents hparent)

theorem child_iff (hgraph : IsComplete declaration? root finished graph) {position child : Nat}
    {caller callee : FunctionId} (hcaller : graph.store.idAt? position = some caller)
    (hcallee : graph.store.idAt? child = some callee) :
    Child graph.store position child ↔
      Reaches declaration? root caller ∧ CallsDeclared declaration? caller callee := by
  rw [← hgraph.linked_iff]
  constructor
  · exact fun hchild => ⟨position, child, hcaller, hcallee, hchild⟩
  · exact hgraph.wellFormed.mem_children_of_linked hcaller hcallee

/-- Everything that the root reaches has a node. -/
theorem has_of_reaches (hgraph : IsComplete declaration? root finished graph) {id : FunctionId}
    (hreaches : Reaches declaration? root id) : graph.store.Has id := by
  cases hreaches with
  | refl => exact ⟨graph.root, hgraph.root_id⟩
  | tail hreaches hcalls =>
      obtain ⟨_, child, _, hchild, _⟩ := (hgraph.linked_iff _ _).mpr ⟨hreaches, hcalls⟩
      exact ⟨child, hchild⟩

theorem reached_iff (hgraph : IsComplete declaration? root finished graph) {position : Nat}
    {id : FunctionId} (hid : graph.store.idAt? position = some id) :
    Relation.ReflTransGen (Child graph.store) graph.root position ↔
      Reaches declaration? root id := by
  constructor
  · intro hreached
    induction hreached generalizing id with
    | refl =>
        cases hgraph.root_id.symm.trans hid
        exact .refl
    | @tail middle _ _ hchild ih =>
        obtain ⟨caller, hcaller⟩ :=
          Option.isSome_iff_exists.mp (NodeStore.isSome_idAt?_of_mem_children hchild)
        exact (ih hcaller).tail ((hgraph.child_iff hcaller hid).mp hchild).2
  · intro hreaches
    induction hreaches generalizing position with
    | refl =>
        cases hgraph.wellFormed.idAt?_inj hid hgraph.root_id
        exact .refl
    | tail hreaches hcalls ih =>
        obtain ⟨caller, child, hcaller, hcallee, hmem⟩ :=
          (hgraph.linked_iff _ _).mpr ⟨hreaches, hcalls⟩
        cases hgraph.wellFormed.idAt?_inj hid hcallee
        exact (ih hcaller).tail hmem

theorem calls_of_transGen (hgraph : IsComplete declaration? root finished graph)
    {position other : Nat} {caller callee : FunctionId}
    (hcaller : graph.store.idAt? position = some caller)
    (hcallee : graph.store.idAt? other = some callee)
    (hpath : Relation.TransGen (Child graph.store) position other) :
    Relation.TransGen (CallsDeclared declaration?) caller callee := by
  induction hpath generalizing callee with
  | single hchild => exact .single ((hgraph.child_iff hcaller hcallee).mp hchild).2
  | tail _ hchild ih =>
      obtain ⟨between, hbetween⟩ :=
        Option.isSome_iff_exists.mp (NodeStore.isSome_idAt?_of_mem_children hchild)
      exact (ih hbetween).tail ((hgraph.child_iff hbetween hcallee).mp hchild).2

/-- No node of a complete graph reaches itself. -/
theorem acyclic_positions (hgraph : IsComplete declaration? root finished graph) (position : Nat) :
    ¬ Relation.TransGen (Child graph.store) position position := by
  intro hcycle
  obtain ⟨next, hchild, _⟩ := Relation.TransGen.head'_iff.mp hcycle
  obtain ⟨id, hid⟩ :=
    Option.isSome_iff_exists.mp (NodeStore.isSome_idAt?_of_mem_children hchild)
  obtain ⟨callee, hcallee⟩ := hgraph.exists_idAt? hchild
  exact hgraph.acyclic id ((hgraph.child_iff hid hcallee).mp hchild).1
    (hgraph.calls_of_transGen hid hid hcycle)

/-! ## The walk over a complete graph -/

theorem exists_visits (hgraph : IsComplete declaration? root finished graph) :
    ∃ after order, Visits graph.store [graph.root] [] after order := by
  have hsome : ∀ position id, graph.store.idAt? position = some id →
      (graph.store.node? position).isSome := fun position id hid => by
    obtain ⟨node, hnode, _⟩ := NodeStore.idAt?_eq_some_iff.mp hid
    simp [hnode]
  refine Visits.exists_of_valid (fun position child hchild => ?_) _ _ fun position hposition => ?_
  · obtain ⟨id, hid⟩ := hgraph.exists_idAt? hchild
    exact hsome child id hid
  · rw [List.mem_singleton] at hposition
    exact hposition ▸ hsome graph.root root hgraph.root_id

/-- The identities that a walk lists are in the order of emission. -/
theorem isEmissionOrder (hgraph : IsComplete declaration? root finished graph)
    {after order : List Nat} (hvisits : Visits graph.store [graph.root] [] after order) :
    IsEmissionOrder declaration? root (order.filterMap graph.store.idAt?) where
  nodup := by
    refine hvisits.nodup.filterMap fun left right id hleft hright => ?_
    exact hgraph.wellFormed.idAt?_inj hleft hright
  mem_iff := by
    intro id
    rw [List.mem_filterMap]
    constructor
    · rintro ⟨position, hposition, hid⟩
      have hreaches := (hgraph.reached_iff hid).mp ((hvisits.mem_iff_reached position).mp hposition)
      exact ⟨hreaches.declared hgraph.root_declared, hreaches⟩
    · rintro ⟨_, hreaches⟩
      obtain ⟨position, hid⟩ := hgraph.has_of_reaches hreaches
      refine ⟨position, (hvisits.mem_iff_reached position).mpr ?_, hid⟩
      exact (hgraph.reached_iff hid).mpr hreaches
  callees_before := by
    intro before id rest hids callee hcalls
    obtain ⟨left, right, rfl, hleft, hright⟩ := List.filterMap_eq_append_iff.mp hids
    obtain ⟨skipped, position, later, rfl, hskipped, hid, _⟩ :=
      List.filterMap_eq_cons_iff.mp hright
    have hreached := (hvisits.mem_iff_reached position).mp (by simp)
    obtain ⟨caller, child, hcaller, hcallee, hmem⟩ :=
      (hgraph.linked_iff id callee).mpr ⟨(hgraph.reached_iff hid).mp hreached, hcalls⟩
    cases hgraph.wellFormed.idAt?_inj hid hcaller
    have hfirst : ChildrenFirst graph.store [] (left ++ (skipped ++ position :: later)) :=
      hvisits.childrenFirst hgraph.acyclic_positions (by simp)
    have hbefore : child ∈ left ++ skipped := by
      simpa using hfirst.of_split (List.append_assoc left skipped _).symm hmem
    rw [← hleft, List.mem_filterMap]
    refine ⟨child, (List.mem_append.mp hbefore).resolve_right fun hskip => ?_, hcallee⟩
    simp [hskipped child hskip] at hcallee
  last := by
    obtain ⟨inner, node, rfl, _, _⟩ := hvisits.of_singleton
    simp [hgraph.root_id]

end IsComplete

/-! ## What the walk extracts -/

/-- The identities with their declarations. -/
def declarationsOf (declaration? : FunctionId → Option Declaration) (ids : List FunctionId) :
    List (FunctionId × Declaration) :=
  ids.filterMap fun id => (declaration? id).map fun declaration => (id, declaration)

theorem mem_declarationsOf {ids : List FunctionId} {id : FunctionId} {declaration : Declaration} :
    (id, declaration) ∈ declarationsOf declaration? ids ↔
      id ∈ ids ∧ declaration? id = some declaration := by
  simp [declarationsOf, List.mem_filterMap, Option.map_eq_some_iff]

theorem map_fst_declarationsOf {ids : List FunctionId}
    (hids : ∀ id ∈ ids, Declared declaration? id) :
    (declarationsOf declaration? ids).map (·.1) = ids := by
  induction ids with
  | nil => rfl
  | cons id rest ih =>
      obtain ⟨hid, hrest⟩ := List.forall_mem_cons.mp hids
      obtain ⟨declaration, hdeclaration⟩ := Option.isSome_iff_exists.mp hid
      rw [declarationsOf, List.filterMap_cons, hdeclaration]
      exact congrArg (id :: ·) (ih hrest)

theorem NodeStore.Caches.declaredAt?_eq {store : NodeStore Declaration}
    (hcaches : store.Caches declaration?) (position : Nat) :
    PostOrder.declaredAt? store position = (store.idAt? position).bind fun id =>
      (declaration? id).map fun declaration => (id, declaration) := by
  cases hnode : store.node? position with
  | none => simp [PostOrder.declaredAt?, NodeStore.idAt?, hnode]
  | some node =>
      simp [PostOrder.declaredAt?, NodeStore.idAt?, hnode, hcaches position node hnode]

/-- The walk over a complete graph extracts from the declarations in the order of emission. -/
theorem IsComplete.exists_emissionOrder {finished : List FunctionId}
    {graph : CallGraph Declaration} (hgraph : IsComplete declaration? root finished graph) :
    ∃ ids, IsEmissionOrder declaration? root ids ∧
      ∀ {ε β : Type} (extract : FunctionId → Declaration → Except ε β),
        graph.postOrder extract =
          (declarationsOf declaration? ids).mapM fun declared => extract declared.1 declared.2 := by
  obtain ⟨after, order, hvisits⟩ := hgraph.exists_visits
  refine ⟨_, hgraph.isEmissionOrder hvisits, fun extract => ?_⟩
  have hdeclared : order.filterMap (PostOrder.declaredAt? graph.store) =
      declarationsOf declaration? (order.filterMap graph.store.idAt?) := by
    rw [declarationsOf, List.filterMap_filterMap]
    exact List.filterMap_congr fun position _ => hgraph.caches.declaredAt?_eq position
  rw [CallGraph.postOrder_eq hvisits, PostOrder.extractAll, hdeclared]

end ShaderCalls
