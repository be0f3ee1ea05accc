import ShaderCalls.Proofs.Discovery.Emission
import ShaderCalls.Proofs.Graph.CallEdges

/-!
# The calls of a discovered program

The functions of a program come from a walk from the root, its calls from the nodes of the graph in
the order of their creation.  Both speak of the same functions: the calls of a program are the calls
between its functions.
-/

namespace ShaderCalls

variable {resolver : Resolver} {markers : Markers} {root : FunctionId} {program : Program}

/-- A program is read off a complete graph: its functions from a walk, its calls from the edges. -/
theorem exists_graph_of_discover (hdiscover : discover resolver markers root = .ok program) :
    ∃ graph finished, Builder.build resolver root = .ok graph ∧
      IsComplete resolver.declaration? root finished graph ∧ program.calls = graph.edges ∧
      IsEmissionOrder resolver.declaration? root program.order := by
  cases hbuild : Builder.build resolver root with
  | error error =>
      rw [discover, hbuild] at hdiscover
      contradiction
  | ok graph =>
      obtain ⟨finished, hgraph⟩ := Builder.isComplete_of_build hbuild
      obtain ⟨ids, hids, hprogram⟩ := discover_of_build markers hbuild
      rw [hdiscover] at hprogram
      rcases extractRecords_cases markers hids.declared with
        ⟨records, hok, hsame, _⟩ | ⟨error, herror, _⟩
      · rw [hok] at hprogram
        have horder : program.order = ids := by
          rw [Except.ok.inj hprogram]
          exact hsame
        have hcalls : program.calls = graph.edges := by
          rw [Except.ok.inj hprogram]
        exact ⟨graph, finished, rfl, hgraph, hcalls, horder ▸ hids⟩
      · simp [herror, Except.map] at hprogram

/-- The calls between listed functions, each once, from a caller to a function that stands before
it. -/
structure IsCallList (declaration? : FunctionId → Option Declaration) (ids : List FunctionId)
    (calls : List (FunctionId × FunctionId)) : Prop where
  nodup : calls.Nodup
  mem_iff : ∀ caller callee, (caller, callee) ∈ calls ↔
    caller ∈ ids ∧ callee ∈ ids ∧ Calls declaration? caller callee
  callees_before : ∀ before caller after, ids = before ++ caller :: after →
    ∀ callee, (caller, callee) ∈ calls → callee ∈ before

/-- One node for each identity, links that both ends agree on, and no links at an intrinsic that a
listed function calls. -/
structure HasCallNodes (declaration? : FunctionId → Option Declaration) (ids : List FunctionId)
    (store : NodeStore Declaration) : Prop where
  distinct : (store.nodes.map (·.id)).Nodup
  mem_children_iff : ∀ caller callee,
    callee ∈ store.children caller ↔ caller ∈ store.parents callee
  isolated : ∀ caller ∈ ids, ∀ callee, Calls declaration? caller callee →
    ¬ Declared declaration? callee → store.Isolated callee

namespace IsComplete

variable {declaration? : FunctionId → Option Declaration} {finished ids : List FunctionId}
variable {graph : CallGraph Declaration}

theorem isCallList (hgraph : IsComplete declaration? root finished graph)
    (hids : IsEmissionOrder declaration? root ids) :
    IsCallList declaration? ids graph.edges := by
  have hmem : ∀ caller callee, (caller, callee) ∈ graph.edges ↔
      caller ∈ ids ∧ callee ∈ ids ∧ Calls declaration? caller callee := by
    intro caller callee
    rw [CallGraph.mem_edges_iff, hgraph.linked_iff, hids.mem_iff, hids.mem_iff]
    constructor
    · rintro ⟨hreaches, hcalls⟩
      exact ⟨⟨hcalls.1.declared, hreaches⟩, ⟨hcalls.2, hreaches.tail hcalls⟩, hcalls.1⟩
    · rintro ⟨⟨_, hreaches⟩, ⟨hdeclared, _⟩, hcalls⟩
      exact ⟨hreaches, hcalls, hdeclared⟩
  refine ⟨CallGraph.nodup_edges hgraph.wellFormed, hmem, ?_⟩
  intro before caller after hsplit callee hedge
  obtain ⟨_, hcallee, hcalls⟩ := (hmem caller callee).mp hedge
  have hdeclared := hids.declared callee hcallee
  exact hids.callees_before before caller after hsplit callee ⟨hcalls, hdeclared⟩

theorem hasCallNodes (hgraph : IsComplete declaration? root finished graph)
    (hids : IsEmissionOrder declaration? root ids) :
    HasCallNodes declaration? ids graph.store where
  distinct := hgraph.wellFormed.distinct
  mem_children_iff := hgraph.wellFormed.mem_children_iff
  isolated := by
    intro caller hcaller callee hcalls hundeclared
    have hreaches := ((hids.mem_iff caller).mp hcaller).2
    exact hgraph.isolated_of_undeclared (hgraph.has_callee hreaches hcalls) hundeclared

end IsComplete

/-- The calls of a discovered program are the calls between its functions, each once, and lead to
functions that stand before their callers.  They are read from a graph in which intrinsics are nodes
without links, and one node is a child of another exactly if that one is a parent of the first. -/
theorem discover_calls (resolver : Resolver) (markers : Markers) (root : FunctionId)
    (program : Program) (hdiscover : discover resolver markers root = .ok program) :
    IsCallList resolver.declaration? program.order program.calls ∧
    ∃ graph, Builder.build resolver root = .ok graph ∧ program.calls = graph.edges ∧
      HasCallNodes resolver.declaration? program.order graph.store := by
  obtain ⟨graph, finished, hbuild, hgraph, hcalls, hids⟩ := exists_graph_of_discover hdiscover
  refine ⟨?_, graph, hbuild, hcalls, hgraph.hasCallNodes hids⟩
  rw [hcalls]
  exact hgraph.isCallList hids

/-- A root that calls an intrinsic and two functions, of which one calls the other twice. -/
def repeatedCalls : Resolver :=
  .ofList [
    (⟨"app", "main"⟩, .calling [⟨"app", "left"⟩, ⟨"std", "sin"⟩, ⟨"app", "right"⟩]),
    (⟨"app", "left"⟩, .calling [⟨"app", "right"⟩, ⟨"app", "right"⟩]),
    (⟨"app", "right"⟩, .calling [⟨"std", "sin"⟩]),
    (⟨"app", "unused"⟩, .calling [⟨"app", "main"⟩])]

theorem repeatedCalls_calls :
    IsCallList repeatedCalls.declaration?
      [⟨"app", "right"⟩, ⟨"app", "left"⟩, ⟨"app", "main"⟩]
      [(⟨"app", "main"⟩, ⟨"app", "left"⟩), (⟨"app", "main"⟩, ⟨"app", "right"⟩),
        (⟨"app", "left"⟩, ⟨"app", "right"⟩)] ∧
    ∃ graph, Builder.build repeatedCalls ⟨"app", "main"⟩ = .ok graph ∧
      [(⟨"app", "main"⟩, ⟨"app", "left"⟩), (⟨"app", "main"⟩, ⟨"app", "right"⟩),
        (⟨"app", "left"⟩, ⟨"app", "right"⟩)] = graph.edges ∧
      HasCallNodes repeatedCalls.declaration?
        [⟨"app", "right"⟩, ⟨"app", "left"⟩, ⟨"app", "main"⟩] graph.store :=
  discover_calls repeatedCalls {} ⟨"app", "main"⟩ _ rfl

end ShaderCalls
