import ShaderCalls.Proofs.Graph.CompleteGraph
import ShaderCalls.Proofs.Graph.ReportedDefects

/-!
# The builder's loop in terms of positions

The state of the builder keeps the chain three times: as frames, as the set of active positions and
in the links of the store.  At the head of the loop all three agree, whatever calls there are, and
nothing is lost of the callees of an active function: each declared one is in the queue of the
function, or linked and then expanded or the next one on the chain.
-/

namespace ShaderCalls

namespace Builder

variable {declaration? : FunctionId → Option Declaration} {root : FunctionId} {state : State}
variable {chain finished : List FunctionId}

/-- What holds at the head of the loop. -/
structure LoopInvariant (declaration? : FunctionId → Option Declaration) (root : FunctionId)
    (state : State) : Prop where
  mem_active_iff : ∀ position,
    position ∈ state.active ↔ ∃ frame ∈ state.stack, frame.node = position
  nodup : (state.stack.map (·.node)).Nodup
  declared : ∀ frame ∈ state.stack,
    ∃ id, state.store.idAt? frame.node = some id ∧ Declared declaration? id
  outermost : ∀ frame ∈ state.stack.getLast?, state.store.idAt? frame.node = some root
  linked : state.stack.IsChain fun inner outer => inner.node ∈ state.store.children outer.node
  disjoint : ∀ position ∈ state.expanded, position ∉ state.active
  closed : ∀ position ∈ state.expanded, ∀ child ∈ state.store.children position,
    child ∈ state.expanded
  /-- The frames of `inside` are the inner ones; the last of them is the next to `frame`. -/
  visited : ∀ inside frame outside, state.stack = inside ++ frame :: outside →
    ∀ id, state.store.idAt? frame.node = some id → ∀ callee, CallsDeclared declaration? id callee →
      (callee ∈ frame.queue ∧ ¬ state.store.Linked id callee) ∨
      (callee ∉ frame.queue ∧ ∃ child ∈ state.store.children frame.node,
        state.store.idAt? child = some callee ∧
          (child ∈ state.expanded ∨ ∃ next ∈ inside.getLast?, next.node = child))
  isSome_activeCycle_iff : ∀ callee, (activeCycle state callee).isSome ↔
    ∃ frame ∈ state.stack, state.store.idAt? frame.node = some callee

/-! ## Positions of a chain -/

section Positions

variable {store : NodeStore Declaration} {inner : Option FunctionId} {stack : List Frame}

section

variable {positions : List Nat} {ids : List FunctionId}

theorem map_idAt?_positions
    (hids : List.Forall₂ (fun position id => store.idAt? position = some id) positions ids) :
    positions.map store.idAt? = ids.map some := by
  rw [← List.forall₂_eq_eq_eq, List.forall₂_map_left_iff, List.forall₂_map_right_iff]
  exact hids

/-- Different functions have different positions. -/
theorem nodup_positions
    (hids : List.Forall₂ (fun position id => store.idAt? position = some id) positions ids)
    (hnodup : ids.Nodup) : positions.Nodup := by
  have himages : (positions.map store.idAt?).Nodup := by
    rw [map_idAt?_positions hids]
    exact hnodup.map fun _ _ => Option.some.inj
  exact himages.of_map _

end

theorem OnChain.linked (hstore : store.WellFormed)
    (honChain : OnChain declaration? store finished inner chain stack) :
    stack.IsChain fun inner outer => inner.node ∈ store.children outer.node := by
  induction honChain with
  | nil => exact .nil
  | @cons _ id position _ _ _ _ hid hcallees _ _ houter ih =>
      cases houter with
      | nil => exact .singleton _
      | @cons _ outerId outerPosition visited _ _ _ houterId _ hrecorded hinner _ =>
          have hlinked := ((hrecorded id (hinner id rfl)).2 hcallees.declared).1
          exact .cons_cons (hstore.mem_children_of_linked houterId hid hlinked) ih

/-- The frames outside of some inner ones are on the chain too.  The next inner function is then
that of the last frame inside. -/
theorem OnChain.outside {inside outside : List Frame} {frame : Frame}
    (honChain : OnChain declaration? store finished inner chain (inside ++ frame :: outside)) :
    ∃ above, OnChain declaration? store finished
      (inside.getLast?.elim inner fun next => store.idAt? next.node) above (frame :: outside) := by
  induction inside generalizing inner chain with
  | nil => exact ⟨chain, honChain⟩
  | cons first inside ih =>
      rw [List.cons_append] at honChain
      cases honChain with
      | cons hid _ _ _ houter =>
          obtain ⟨above, habove⟩ := ih houter
          refine ⟨above, ?_⟩
          rw [List.getLast?_cons]
          cases hlast : inside.getLast? with
          | none => simpa [hlast, hid] using habove
          | some next => simpa [hlast] using habove

end Positions

/-! ## Queued callees -/

/-- The function of a frame has not been linked to the callees in its queue. -/
def Frame.Unlinked (store : NodeStore Declaration) (frame : Frame) : Prop :=
  ∀ id, store.idAt? frame.node = some id → ∀ callee ∈ frame.queue, ¬ store.Linked id callee

section Unlinked

variable {store larger : NodeStore Declaration} {frame : Frame} {id callee : FunctionId}
variable {current : Nat} {queue : List FunctionId} {stack : List Frame}

theorem Frame.Unlinked.mono (hframe : frame.Unlinked store)
    (hid : store.idAt? frame.node = some id) (hextends : store.Extends larger)
    (hlinks : ∀ callee ∈ frame.queue, larger.Linked id callee → store.Linked id callee) :
    frame.Unlinked larger := by
  intro other hother callee hcallee hlinked
  have hsame : id = other := Option.some.inj ((hextends.idAt? hid).symm.trans hother)
  subst hsame
  exact hframe id hid callee hcallee (hlinks callee hcallee hlinked)

/-- The one new link is that of the current function to its callee. -/
theorem linked_of_recordCall (hstore : store.WellFormed)
    (hcurrent : store.idAt? current = some id) {caller called : FunctionId}
    (hlinked : (recordCall declaration? store current callee).Linked caller called) :
    store.Linked caller called ∨ (caller = id ∧ called = callee) := by
  have hposition : (store.getOrCreate callee declaration?).1.idAt? current = some id :=
    NodeStore.idAt?_getOrCreate_of_some hcurrent
  rcases NodeStore.linked_of_link hposition hstore.idAt?_getOrCreate_self hlinked with
    hold | hnew
  · exact Or.inl (NodeStore.linked_of_getOrCreate hstore hold)
  · exact Or.inr hnew

theorem Invariant.exists_id (hstate : Invariant declaration? root state chain finished)
    (hframe : frame ∈ state.stack) :
    ∃ id ∈ chain, state.store.idAt? frame.node = some id :=
  exists_mem_of_forall₂ hstate.onChain.positions (List.mem_map_of_mem hframe)

theorem Invariant.nodup_nodes (hstate : Invariant declaration? root state chain finished) :
    (state.stack.map (·.node)).Nodup :=
  nodup_positions hstate.onChain.positions hstate.nodup.of_append_left

/-- A callee leaves the queue of the current function, which has no other frame. -/
theorem Invariant.unlinked_advance (hstate : Invariant declaration? root state chain finished)
    (hunlinked : ∀ frame ∈ state.stack, frame.Unlinked state.store)
    (hstack : state.stack = ⟨current, callee :: queue⟩ :: stack)
    (hcurrent : state.store.idAt? current = some id) :
    ∀ frame ∈ (⟨current, queue⟩ :: stack : List Frame), frame.Unlinked state.store ∧
      ∃ other, state.store.idAt? frame.node = some other ∧
        (other = id → callee ∉ frame.queue) := by
  have hnodes := hstate.nodup_nodes
  have honChain := hstack ▸ hstate.onChain
  rw [hstack] at hunlinked hnodes
  refine List.forall_mem_cons.mpr ⟨⟨?_, id, hcurrent, fun _ => ?_⟩, fun frame hframe => ?_⟩
  · intro other hother called hcalled
    exact hunlinked _ List.mem_cons_self other hother called (List.mem_cons_of_mem _ hcalled)
  · cases honChain with
    | cons _ hcallees _ _ _ =>
        exact (List.nodup_cons.mp (List.nodup_append.mp hcallees.nodup).2.1).1
  · obtain ⟨other, _, hother⟩ := hstate.exists_id (hstack ▸ List.mem_cons_of_mem _ hframe)
    refine ⟨hunlinked frame (List.mem_cons_of_mem _ hframe), other, hother, fun hsame => ?_⟩
    subst hsame
    have hnode : frame.node = current := hstate.wellFormed.idAt?_inj hother hcurrent
    have hmem : frame.node ∈ stack.map (·.node) := List.mem_map_of_mem hframe
    exact absurd (hnode ▸ hmem) (List.nodup_cons.mp hnodes).1

theorem Invariant.unlinked_record (hstate : Invariant declaration? root state chain finished)
    (hunlinked : ∀ frame ∈ state.stack, frame.Unlinked state.store)
    (hstack : state.stack = ⟨current, callee :: queue⟩ :: stack)
    (hcurrent : state.store.idAt? current = some id) :
    ∀ frame ∈ (⟨current, queue⟩ :: stack : List Frame),
      frame.Unlinked (recordCall declaration? state.store current callee) := by
  intro frame hframe
  obtain ⟨hold, other, hother, hqueue⟩ :=
    hstate.unlinked_advance hunlinked hstack hcurrent frame hframe
  apply hold.mono hother (extends_recordCall hcurrent callee)
  intro called hcalled hlinked
  rcases linked_of_recordCall hstate.wellFormed hcurrent hlinked with hlinked | ⟨hsame, rfl⟩
  · exact hlinked
  · exact absurd hcalled (hqueue hsame)

/-- Each round keeps the callees in the queues unlinked. -/
theorem Invariant.unlinked_next (hstate : Invariant declaration? root state chain finished)
    (hunlinked : ∀ frame ∈ state.stack, frame.Unlinked state.store) {later : State}
    (hstep : step declaration? state = .ok (some later)) :
    ∀ frame ∈ later.stack, frame.Unlinked later.store := by
  have houtcome := hstate.outcome
  rw [hstep] at houtcome
  cases houtcome with
  | leave hstack _ =>
      rw [hstack] at hunlinked
      exact (List.forall_mem_cons.mp hunlinked).2
  | @intrinsic current queue stack callee hstack _ _ =>
      obtain ⟨id, outside, _, hcurrent, _⟩ := hstate.exists_head hstack
      intro frame hframe
      obtain ⟨hold, other, hother, _⟩ :=
        hstate.unlinked_advance hunlinked hstack hcurrent frame hframe
      apply hold.mono hother (.getOrCreate state.store callee declaration?)
      exact fun called _ hlinked => NodeStore.linked_of_getOrCreate hstate.wellFormed hlinked
  | known hstack _ _ _ =>
      obtain ⟨id, outside, _, hcurrent, _⟩ := hstate.exists_head hstack
      exact hstate.unlinked_record hunlinked hstack hcurrent
  | @enter current queue callees stack callee hstack hchain hfinished _ =>
      obtain ⟨id, outside, rfl, hcurrent, _⟩ := hstate.exists_head hstack
      refine List.forall_mem_cons.mpr
        ⟨?_, hstate.unlinked_record hunlinked hstack hcurrent⟩
      -- The new function of the chain has not called anything yet.
      intro other hother called _ hlinked
      have hentered : other = callee :=
        Option.some.inj (hother.symm.trans (idAt?_recordCall hstate.wellFormed current callee))
      rcases linked_of_recordCall hstate.wellFormed hcurrent hlinked with hlinked | ⟨hsame, _⟩
      · rcases List.mem_append.mp (hstate.links other called hlinked).2 with hmem | hmem
        · exact hchain (hentered ▸ hmem)
        · exact hfinished (hentered ▸ hmem)
      · exact hchain (hentered ▸ hsame ▸ List.mem_cons_self)

end Unlinked

/-! ## Runs -/

/-- A run ends in a state with the invariant, and with unlinked callees in the queues. -/
theorem Invariant.run_ok {rounds : Nat} {last : State}
    (hstate : Invariant declaration? root state chain finished)
    (hunlinked : ∀ frame ∈ state.stack, frame.Unlinked state.store)
    (hrun : run declaration? rounds state = .ok last) :
    (∃ chain finished, Invariant declaration? root last chain finished) ∧
      ∀ frame ∈ last.stack, frame.Unlinked last.store := by
  induction rounds generalizing state chain finished with
  | zero =>
      cases hrun
      exact ⟨⟨chain, finished, hstate⟩, hunlinked⟩
  | succ rounds ih =>
      rw [run] at hrun
      obtain ⟨next, hstep, hrun⟩ := exists_of_bind_ok hrun
      cases next with
      | none =>
          cases hrun
          exact ⟨⟨chain, finished, hstate⟩, hunlinked⟩
      | some later =>
          obtain ⟨_, _, hlater, _⟩ := hstate.next hstep
          exact ih hlater (hstate.unlinked_next hunlinked hstep) hrun

/-! ## The invariant by positions -/

namespace Invariant

theorem idAt?_getLast? (hstate : Invariant declaration? root state chain finished) {frame : Frame}
    (hframe : frame ∈ state.stack.getLast?) : state.store.idAt? frame.node = some root := by
  obtain ⟨id, hid, hposition⟩ := hstate.exists_id (List.mem_of_getLast? hframe)
  have hlast : chain.getLast?.map some = some (some id) := by
    rw [← List.getLast?_map, ← map_idAt?_positions hstate.onChain.positions, List.getLast?_map,
      List.getLast?_map, hframe]
    exact congrArg some hposition
  obtain ⟨last, hlast, hsame⟩ := Option.map_eq_some_iff.mp hlast
  have houtermost := hstate.outermost
  rw [hlast, hsame] at houtermost
  exact hposition.trans houtermost

theorem notMem_active_of_expanded (hstate : Invariant declaration? root state chain finished)
    {position : Nat} (hexpanded : position ∈ state.expanded) : position ∉ state.active := by
  obtain ⟨id, hid, hposition⟩ := exists_mem_of_forall₂ hstate.expanded hexpanded
  rw [hstate.mem_active_iff hposition]
  exact fun hmem => List.disjoint_of_nodup_append hstate.nodup hmem hid

theorem child_mem_expanded (hstate : Invariant declaration? root state chain finished)
    {position child : Nat} (hexpanded : position ∈ state.expanded)
    (hchild : child ∈ state.store.children position) : child ∈ state.expanded := by
  obtain ⟨id, hid, hposition⟩ := exists_mem_of_forall₂ hstate.expanded hexpanded
  obtain ⟨callee, hcallee⟩ := Option.isSome_iff_exists.mp
    (NodeStore.isSome_idAt?_of_mem_parents
      ((hstate.wellFormed.mem_children_iff position child).mp hchild))
  have hcalls := (hstate.links id callee ⟨position, child, hposition, hcallee, hchild⟩).1
  obtain ⟨before, after, hsplit⟩ := List.append_of_mem hid
  have hbehind := (hstate.settled.calls_behind hsplit hcalls).2
  rw [mem_positions_iff hstate.wellFormed hstate.expanded hcallee, hsplit]
  exact List.mem_append_right _ (List.mem_cons_of_mem _ hbehind)

/-- A declared callee of a function on the chain waits in the queue, or is linked to the function
and is expanded or next. -/
theorem visited (hstate : Invariant declaration? root state chain finished)
    (hunlinked : ∀ frame ∈ state.stack, frame.Unlinked state.store)
    {inside outside : List Frame} {frame : Frame}
    (hstack : state.stack = inside ++ frame :: outside) {id callee : FunctionId}
    (hid : state.store.idAt? frame.node = some id) (hcalls : CallsDeclared declaration? id callee) :
    (callee ∈ frame.queue ∧ ¬ state.store.Linked id callee) ∨
    (callee ∉ frame.queue ∧ ∃ child ∈ state.store.children frame.node,
      state.store.idAt? child = some callee ∧
        (child ∈ state.expanded ∨ ∃ next ∈ inside.getLast?, next.node = child)) := by
  have hframe : frame ∈ state.stack := by
    simp [hstack]
  by_cases hqueue : callee ∈ frame.queue
  · exact Or.inl ⟨hqueue, hunlinked frame hframe id hid callee hqueue⟩
  · obtain ⟨above, habove⟩ := (hstack ▸ hstate.onChain).outside
    cases habove with
    | @cons _ other position visited queue _ _ hother hcallees hrecorded _ _ =>
        have hsame : other = id := Option.some.inj (hother.symm.trans hid)
        subst hsame
        have hvisited : callee ∈ visited :=
          (List.mem_append.mp ((hcallees.mem_iff callee).mpr hcalls.1)).resolve_right hqueue
        obtain ⟨⟨child, hchild⟩, hdeclared⟩ := hrecorded callee hvisited
        obtain ⟨hlinked, hdone⟩ := hdeclared hcalls.2
        have hmem := hstate.wellFormed.mem_children_of_linked hother hchild hlinked
        refine Or.inr ⟨hqueue, child, hmem, hchild, ?_⟩
        rcases List.mem_append.mp hdone with hnext | hfinished
        · right
          cases hlast : inside.getLast? with
          | none => simp [hlast] at hnext
          | some next =>
              have hposition : state.store.idAt? next.node = some callee := by
                simpa [hlast] using hnext
              exact ⟨next, rfl, hstate.wellFormed.idAt?_inj hposition hchild⟩
        · exact Or.inl ((mem_positions_iff hstate.wellFormed hstate.expanded hchild).mpr hfinished)

theorem isSome_activeCycle_iff (hstate : Invariant declaration? root state chain finished)
    (callee : FunctionId) : (activeCycle state callee).isSome ↔
      ∃ frame ∈ state.stack, state.store.idAt? frame.node = some callee := by
  by_cases hcallee : callee ∈ chain
  · obtain ⟨inside, outside, hsplit⟩ := List.append_of_mem hcallee
    obtain ⟨position, hposition⟩ := hstate.onChain.has callee hcallee
    have hactive := (hstate.mem_active_iff hposition).mpr hcallee
    rw [hstate.active_eq] at hactive
    obtain ⟨frame, hframe, rfl⟩ := List.mem_map.mp hactive
    rw [hstate.activeCycle_of_split hsplit]
    exact iff_of_true rfl ⟨frame, hframe, hposition⟩
  · rw [hstate.activeCycle_of_notMem hcallee]
    refine iff_of_false Bool.false_ne_true ?_
    rintro ⟨frame, hframe, hposition⟩
    obtain ⟨id, hid, hsame⟩ := hstate.exists_id hframe
    exact hcallee (Option.some.inj (hsame.symm.trans hposition) ▸ hid)

theorem loopInvariant (hstate : Invariant declaration? root state chain finished)
    (hunlinked : ∀ frame ∈ state.stack, frame.Unlinked state.store) :
    LoopInvariant declaration? root state where
  mem_active_iff position := by
    rw [hstate.active_eq, List.mem_map]
  nodup := hstate.nodup_nodes
  declared frame hframe := by
    obtain ⟨id, hid, hposition⟩ := hstate.exists_id hframe
    exact ⟨id, hposition, hstate.onChain.declared id hid⟩
  outermost _ hframe := hstate.idAt?_getLast? hframe
  linked := hstate.onChain.linked hstate.wellFormed
  disjoint _ hexpanded := hstate.notMem_active_of_expanded hexpanded
  closed _ hexpanded _ hchild := hstate.child_mem_expanded hexpanded hchild
  visited _ _ _ hstack _ hid _ hcalls := hstate.visited hunlinked hstack hid hcalls
  isSome_activeCycle_iff := hstate.isSome_activeCycle_iff

end Invariant

/-- A store with a single node has no links. -/
theorem unlinked_startState (declaration? : FunctionId → Option Declaration) (root : FunctionId)
    (callees : List FunctionId) :
    ∀ frame ∈ (startState declaration? root callees).stack,
      frame.Unlinked (startState declaration? root callees).store := by
  intro frame _ caller _ callee _ hlinked
  obtain ⟨_, _, _, _, hmem⟩ := NodeStore.linked_of_getOrCreate NodeStore.wellFormed_empty hlinked
  simp [NodeStore.children] at hmem

/-- Once a declared root has been entered, the invariant holds after every number of rounds, at
whatever functions are declared and whatever they call. -/
theorem loopInvariant_of_run (declaration? : FunctionId → Option Declaration) (root : FunctionId)
    (rounds : Nat) (start state : State) (hroot : Declared declaration? root)
    (hstart : enter ⟨(NodeStore.empty.getOrCreate root declaration?).1, [], [], []⟩
      (NodeStore.empty.getOrCreate root declaration?).2 = .ok start)
    (hrun : run declaration? rounds start = .ok state) :
    LoopInvariant declaration? root state := by
  obtain ⟨declaration, hdeclaration⟩ := Option.isSome_iff_exists.mp hroot
  rw [enter_root hdeclaration] at hstart
  cases hok : declaration.callees root with
  | error error =>
      rw [hok] at hstart
      contradiction
  | ok callees =>
      rw [hok] at hstart
      cases hstart
      have hentered := Invariant.start ⟨declaration, hdeclaration, hok⟩
      obtain ⟨⟨_, _, hstate⟩, hunlinked⟩ :=
        hentered.run_ok (unlinked_startState declaration? root callees) hrun
      exact hstate.loopInvariant hunlinked

/-- The state in which `main` has met an intrinsic and `ping`, and `ping` has met `pong`. -/
theorem brokenCalls_loopInvariant :
    ∃ start state, Declared brokenCalls.declaration? ⟨"app", "main"⟩ ∧
      enter ⟨(NodeStore.empty.getOrCreate ⟨"app", "main"⟩ brokenCalls.declaration?).1, [], [], []⟩
        (NodeStore.empty.getOrCreate ⟨"app", "main"⟩ brokenCalls.declaration?).2 = .ok start ∧
      run brokenCalls.declaration? 3 start = .ok state ∧
      state.stack.map (·.node) = [3, 2, 0] ∧
      LoopInvariant brokenCalls.declaration? ⟨"app", "main"⟩ state :=
  ⟨_, _, rfl, rfl, rfl, rfl,
    loopInvariant_of_run brokenCalls.declaration? ⟨"app", "main"⟩ 3 _ _ rfl rfl rfl⟩

end Builder

end ShaderCalls
