import ShaderCalls.Proofs.Graph.BuilderRun

/-!
# Graphs that were built to the end

A graph that building returns has a node for everything that the root reaches and a link for every
call between declared functions there.  Its functions can be listed so that each stands before
everything that it calls, and therefore no reachable function calls itself.
-/

namespace ShaderCalls

variable {declaration? : FunctionId → Option Declaration} {root : FunctionId}
variable {finished : List FunctionId} {store : NodeStore Declaration}

/-- The call graph of a root, whose functions are listed with the root first and each function
before everything that it calls. -/
structure IsComplete (declaration? : FunctionId → Option Declaration) (root : FunctionId)
    (finished : List FunctionId) (graph : CallGraph Declaration) : Prop where
  wellFormed : graph.store.WellFormed
  caches : graph.store.Caches declaration?
  root_id : graph.store.idAt? graph.root = some root
  settled : Builder.Settled declaration? graph.store finished
  nodup : finished.Nodup
  head : finished.head? = some root
  reached : ∀ id ∈ finished, Reaches declaration? root id
  links : ∀ caller callee, graph.store.Linked caller callee →
    CallsDeclared declaration? caller callee ∧ caller ∈ finished

namespace Builder

theorem Settled.of_split (hsettled : Settled declaration? store finished) {id : FunctionId}
    {before after : List FunctionId} (hsplit : finished = before ++ id :: after) :
    ∃ callees, HasCallees declaration? id callees ∧
      Recorded declaration? store after id callees := by
  induction before generalizing finished with
  | nil =>
      subst hsplit
      exact hsettled.1
  | cons first before ih =>
      subst hsplit
      exact ih hsettled.2 rfl

/-- A declared callee stands behind its caller and is linked to it. -/
theorem Settled.calls_behind (hsettled : Settled declaration? store finished)
    {id callee : FunctionId} {before after : List FunctionId}
    (hsplit : finished = before ++ id :: after) (hcalls : CallsDeclared declaration? id callee) :
    store.Linked id callee ∧ callee ∈ after := by
  obtain ⟨callees, hcallees, hrecorded⟩ := hsettled.of_split hsplit
  exact (hrecorded callee ((hcallees.mem_iff callee).mpr hcalls.1)).2 hcalls.2

/-- So does everything that the caller reaches by at least one call. -/
theorem Settled.reaches_behind (hsettled : Settled declaration? store finished)
    {id other : FunctionId} {before after : List FunctionId}
    (hsplit : finished = before ++ id :: after)
    (hreaches : Relation.TransGen (CallsDeclared declaration?) id other) : other ∈ after := by
  induction hreaches with
  | single hcalls => exact (hsettled.calls_behind hsplit hcalls).2
  | @tail middle other _ hcalls ih =>
      obtain ⟨between, rest, hafter⟩ := List.append_of_mem ih
      have hmiddle : finished = (before ++ id :: between) ++ middle :: rest := by
        simp [hsplit, hafter]
      have hbehind := (hsettled.calls_behind hmiddle hcalls).2
      exact hafter ▸ List.mem_append_right _ (List.mem_cons_of_mem _ hbehind)

theorem Invariant.isComplete {last : State} (hlast : Invariant declaration? root last [] finished) :
    IsComplete declaration? root finished ⟨last.store, 0⟩ where
  wellFormed := hlast.wellFormed
  caches := hlast.caches
  root_id := hlast.first
  settled := hlast.settled
  nodup := hlast.nodup
  head := hlast.outermost
  reached := hlast.reached
  links := hlast.links

/-- Building with rounds for all declared functions gives the complete graph. -/
theorem isComplete_of_build {resolver : Resolver} {graph : CallGraph Declaration}
    (hbuild : build resolver root = .ok graph) :
    ∃ finished, IsComplete resolver.declaration? root finished graph := by
  cases hroot : resolver.declaration? root with
  | none =>
      rw [build, buildWithin_of_none hroot] at hbuild
      contradiction
  | some declaration =>
      rw [build, buildWithin_of_some hroot] at hbuild
      rcases hasCallees_or_firstUnresolved hroot with
        ⟨callees, hok, hcallees⟩ | ⟨call, herror, _⟩
      · cases hrun : run resolver.declaration? (roundBound resolver)
            (startState resolver.declaration? root callees) with
        | error error => simp [hok, hrun, Except.bind, Except.map] at hbuild
        | ok last =>
            simp only [hok, hrun, Except.bind, Except.map, Except.ok.injEq] at hbuild
            obtain ⟨finished, _, hlast⟩ := (Invariant.start hcallees).run_complete
              (fun _ => roundsOf_le_roundBound resolver) (pending_startState_le resolver hcallees)
              hrun
            exact ⟨finished, hbuild ▸ hlast.isComplete⟩
      · simp [herror, Except.bind] at hbuild

end Builder

namespace IsComplete

variable {graph : CallGraph Declaration}

theorem root_mem (hgraph : IsComplete declaration? root finished graph) : root ∈ finished :=
  List.mem_of_head? hgraph.head

theorem root_declared (hgraph : IsComplete declaration? root finished graph) :
    Declared declaration? root :=
  hgraph.settled.declared root hgraph.root_mem

/-- The listed functions are those that the root reaches. -/
theorem mem_iff (hgraph : IsComplete declaration? root finished graph) (id : FunctionId) :
    id ∈ finished ↔ Reaches declaration? root id := by
  constructor
  · exact hgraph.reached id
  · intro hreaches
    induction hreaches with
    | refl => exact hgraph.root_mem
    | tail _ hcalls ih =>
        obtain ⟨before, after, hsplit⟩ := List.append_of_mem ih
        have hbehind := (hgraph.settled.calls_behind hsplit hcalls).2
        exact hsplit ▸ List.mem_append_right _ (List.mem_cons_of_mem _ hbehind)

/-- The links of the graph are the calls between declared functions that the root reaches. -/
theorem linked_iff (hgraph : IsComplete declaration? root finished graph)
    (caller callee : FunctionId) :
    graph.store.Linked caller callee ↔
      Reaches declaration? root caller ∧ CallsDeclared declaration? caller callee := by
  constructor
  · intro hlinked
    obtain ⟨hcalls, hmem⟩ := hgraph.links caller callee hlinked
    exact ⟨hgraph.reached caller hmem, hcalls⟩
  · rintro ⟨hreaches, hcalls⟩
    obtain ⟨before, after, hsplit⟩ := List.append_of_mem ((hgraph.mem_iff caller).mpr hreaches)
    exact (hgraph.settled.calls_behind hsplit hcalls).1

theorem acyclic (hgraph : IsComplete declaration? root finished graph) :
    Acyclic declaration? root := by
  intro id hreaches hcycle
  obtain ⟨before, after, hsplit⟩ := List.append_of_mem ((hgraph.mem_iff id).mpr hreaches)
  have hbehind : id ∈ after := hgraph.settled.reaches_behind hsplit hcycle
  have hnodup := hgraph.nodup
  rw [hsplit, List.nodup_middle, List.nodup_cons] at hnodup
  exact hnodup.1 (List.mem_append_right _ hbehind)

theorem callsResolve (hgraph : IsComplete declaration? root finished graph) :
    CallsResolve declaration? root := by
  intro id declaration hreaches hdeclaration
  obtain ⟨before, after, hsplit⟩ := List.append_of_mem ((hgraph.mem_iff id).mpr hreaches)
  obtain ⟨callees, hcallees, _⟩ := hgraph.settled.of_split hsplit
  exact hcallees.callsResolve hdeclaration

end IsComplete

end ShaderCalls
