import ShaderCalls.Proofs.Graph.BuilderState

/-!
# The invariant of the graph builder

The invariant holds when the root has been entered, and each way in which a round can go on keeps
it: a function leaves the chain, or visits a callee that is intrinsic, known or new.
-/

namespace ShaderCalls

namespace Builder

variable {declaration? : FunctionId → Option Declaration} {root : FunctionId} {state : State}
variable {chain finished outside : List FunctionId} {id callee : FunctionId}

/-! ## Changes of a state -/

/-- The innermost function has left the chain and counts as finished. -/
theorem OnChain.release {store : NodeStore Declaration} {stack : List Frame}
    (honChain : OnChain declaration? store finished (some id) outside stack) :
    OnChain declaration? store (id :: finished) none outside stack := by
  cases honChain with
  | nil => exact .nil
  | cons hid hcallees hrecorded _ houter =>
      refine .cons hid hcallees hrecorded (by simp) ?_
      exact houter.mono ⟨fun h => h, fun h => h⟩ fun _ hmem => List.mem_cons_of_mem _ hmem

/-- The innermost function has visited its next callee, which may become the next inner one. -/
theorem OnChain.advance {store : NodeStore Declaration} {position : Nat}
    {queue : List FunctionId} {stack : List Frame} {inner : Option FunctionId}
    (honChain : OnChain declaration? store finished none (id :: outside)
      (⟨position, callee :: queue⟩ :: stack))
    (hcallee : Recorded declaration? store (inner.toList ++ finished) id [callee])
    (hinner : ∀ next ∈ inner, next = callee) :
    OnChain declaration? store finished inner (id :: outside) (⟨position, queue⟩ :: stack) := by
  cases honChain with
  | @cons _ _ _ visited _ _ _ hid hcallees hrecorded _ houter =>
      have hvisited : HasCallees declaration? id ((visited ++ [callee]) ++ queue) := by
        simpa using hcallees
      refine .cons hid hvisited ?_ ?_ houter
      · intro other hother
        rcases List.mem_append.mp hother with hvisited | hlast
        · have hlater := hrecorded.mono ⟨fun h => h, fun h => h⟩
            fun _ hmem => List.mem_append_right inner.toList hmem
          exact hlater other hvisited
        · exact hcallee other hlast
      · intro next hnext
        simp [hinner next hnext]

theorem Invariant.leave (hstate : Invariant declaration? root state (id :: outside) finished)
    {current : Nat} {stack : List Frame} (hstack : state.stack = ⟨current, []⟩ :: stack) :
    Invariant declaration? root
      { state with
        stack
        active := stack.map (·.node)
        expanded := current :: state.expanded }
      outside (id :: finished) := by
  have honChain := hstack ▸ hstate.onChain
  cases honChain with
  | @cons _ _ _ visited _ _ _ hid hcallees hrecorded _ houter =>
      have hperm : ∀ other, other ∈ outside ++ id :: finished ↔
          other ∈ id :: outside ++ finished := by
        intro other
        simp only [List.mem_append, List.mem_cons, List.cons_append]
        tauto
      exact {
        wellFormed := hstate.wellFormed
        caches := hstate.caches
        onChain := houter.release
        active_eq := rfl
        expanded := .cons hid hstate.expanded
        settled := ⟨⟨visited, by simpa using hcallees, hrecorded⟩, hstate.settled⟩
        nodup := List.nodup_middle.mpr hstate.nodup
        reached := fun other hother => hstate.reached other ((hperm other).mp hother)
        outermost := by
          have houtermost := hstate.outermost
          cases outside with
          | nil => simpa using houtermost
          | cons next rest =>
              rw [List.getLast?_cons_cons, List.getLast?_eq_some_getLast (by simp)] at houtermost
              rw [List.getLast?_eq_some_getLast (by simp)]
              exact houtermost
        first := hstate.first
        links := fun caller called hlinked => by
          obtain ⟨hcalls, hmem⟩ := hstate.links caller called hlinked
          exact ⟨hcalls, (hperm caller).mpr hmem⟩ }

theorem Invariant.grow (hstate : Invariant declaration? root state chain finished)
    {larger : NodeStore Declaration} (hextends : state.store.Extends larger)
    (hwellFormed : larger.WellFormed) (hcaches : larger.Caches declaration?)
    (hlinks : ∀ caller called, larger.Linked caller called →
      CallsDeclared declaration? caller called ∧ caller ∈ chain ++ finished) :
    Invariant declaration? root { state with store := larger } chain finished where
  wellFormed := hwellFormed
  caches := hcaches
  onChain := hstate.onChain.mono hextends fun _ h => h
  active_eq := hstate.active_eq
  expanded := hstate.expanded.imp fun _ _ hid => hextends.idAt? hid
  settled := hstate.settled.mono hextends
  nodup := hstate.nodup
  reached := hstate.reached
  outermost := hstate.outermost
  first := hextends.idAt? hstate.first
  links := hlinks

theorem Invariant.advance (hstate : Invariant declaration? root state (id :: outside) finished)
    {current : Nat} {queue : List FunctionId} {stack : List Frame}
    (hstack : state.stack = ⟨current, callee :: queue⟩ :: stack)
    (hcallee : Recorded declaration? state.store finished id [callee]) :
    Invariant declaration? root { state with stack := ⟨current, queue⟩ :: stack }
      (id :: outside) finished where
  wellFormed := hstate.wellFormed
  caches := hstate.caches
  onChain := (hstack ▸ hstate.onChain).advance hcallee (by simp)
  active_eq := by simpa [hstack] using hstate.active_eq
  expanded := hstate.expanded
  settled := hstate.settled
  nodup := hstate.nodup
  reached := hstate.reached
  outermost := hstate.outermost
  first := hstate.first
  links := hstate.links

theorem Invariant.push (hstate : Invariant declaration? root state (id :: outside) finished)
    {current child : Nat} {queue callees : List FunctionId} {stack : List Frame}
    (hstack : state.stack = ⟨current, callee :: queue⟩ :: stack)
    (hchild : state.store.idAt? child = some callee)
    (hlinked : state.store.Linked id callee) (hfresh : callee ∉ id :: outside ++ finished)
    (hcallees : HasCallees declaration? callee callees) :
    Invariant declaration? root
      { state with
        stack := ⟨child, callees⟩ :: ⟨current, queue⟩ :: stack
        active := child :: state.active }
      (callee :: id :: outside) finished where
  wellFormed := hstate.wellFormed
  caches := hstate.caches
  onChain := by
    have hrecorded : Recorded declaration? state.store ((some callee).toList ++ finished) id
        [callee] := by
      intro other hother
      rw [List.mem_singleton] at hother
      subst other
      exact ⟨⟨child, hchild⟩, fun _ => ⟨hlinked, by simp⟩⟩
    have houter := (hstack ▸ hstate.onChain).advance hrecorded (by simp)
    have hqueued : HasCallees declaration? callee ([] ++ callees) := hcallees
    exact .cons hchild hqueued (by simp [Recorded]) (by simp) houter
  active_eq := by simpa [hstack] using hstate.active_eq
  expanded := hstate.expanded
  settled := hstate.settled
  nodup := List.nodup_cons.mpr ⟨hfresh, hstate.nodup⟩
  reached := by
    have hcalls := (hstate.links id callee hlinked).1
    exact List.forall_mem_cons.mpr
      ⟨(hstate.reached id (by simp)).tail hcalls, hstate.reached⟩
  outermost := by simpa using hstate.outermost
  first := hstate.first
  links := fun caller called hcalled => by
    obtain ⟨hcalls, hmem⟩ := hstate.links caller called hcalled
    exact ⟨hcalls, List.mem_cons_of_mem _ hmem⟩

/-! ## Recording a call -/

section RecordCall

variable {current : Nat} {queue : List FunctionId} {stack : List Frame}

/-- The innermost frame belongs to the innermost function of the chain and queues its callees. -/
theorem Invariant.exists_head (hstate : Invariant declaration? root state chain finished)
    (hstack : state.stack = ⟨current, queue⟩ :: stack) :
    ∃ id outside, chain = id :: outside ∧ state.store.idAt? current = some id ∧
      ∀ callee ∈ queue, Calls declaration? id callee := by
  have honChain := hstack ▸ hstate.onChain
  cases honChain with
  | cons hid hcallees _ _ _ =>
      exact ⟨_, _, rfl, hid, fun callee hcallee =>
        (hcallees.mem_iff callee).mp (List.mem_append_right _ hcallee)⟩

theorem extends_recordCall {store : NodeStore Declaration}
    (hcurrent : store.idAt? current = some id) (callee : FunctionId) :
    store.Extends (recordCall declaration? store current callee) := by
  have hcreated := NodeStore.Extends.getOrCreate store callee declaration?
  exact hcreated.trans (.link _ (by simp [hcreated.idAt? hcurrent]) _)

theorem idAt?_recordCall {store : NodeStore Declaration} (hstore : store.WellFormed) (current : Nat)
    (callee : FunctionId) :
    (recordCall declaration? store current callee).idAt?
      (store.getOrCreate callee declaration?).2 = some callee := by
  simpa [recordCall] using hstore.idAt?_getOrCreate_self

theorem linked_recordCall {store : NodeStore Declaration} (hstore : store.WellFormed)
    (hcurrent : store.idAt? current = some id) (callee : FunctionId) :
    (recordCall declaration? store current callee).Linked id callee :=
  NodeStore.linked_link (NodeStore.idAt?_getOrCreate_of_some hcurrent)
    hstore.idAt?_getOrCreate_self

theorem Invariant.create (hstate : Invariant declaration? root state chain finished)
    (callee : FunctionId) :
    Invariant declaration? root
      { state with store := (state.store.getOrCreate callee declaration?).1 } chain finished :=
  hstate.grow (.getOrCreate state.store callee declaration?) hstate.wellFormed.getOrCreate
    hstate.caches.getOrCreate fun caller called hlinked =>
      hstate.links caller called (NodeStore.linked_of_getOrCreate hstate.wellFormed hlinked)

theorem Invariant.record (hstate : Invariant declaration? root state (id :: outside) finished)
    (hcurrent : state.store.idAt? current = some id)
    (hcalls : CallsDeclared declaration? id callee) :
    Invariant declaration? root
      { state with store := recordCall declaration? state.store current callee }
      (id :: outside) finished := by
  have hposition : (state.store.getOrCreate callee declaration?).1.idAt? current = some id :=
    NodeStore.idAt?_getOrCreate_of_some hcurrent
  have hchild : (state.store.getOrCreate callee declaration?).1.idAt?
      (state.store.getOrCreate callee declaration?).2 = some callee :=
    hstate.wellFormed.idAt?_getOrCreate_self
  refine hstate.grow (extends_recordCall hcurrent callee) ?_ hstate.caches.getOrCreate.link ?_
  · exact hstate.wellFormed.getOrCreate.link (by simp [hposition]) (by simp [hchild])
  · intro caller called hlinked
    rcases NodeStore.linked_of_link hposition hchild hlinked with hold | ⟨rfl, rfl⟩
    · exact hstate.links caller called
        (NodeStore.linked_of_getOrCreate hstate.wellFormed hold)
    · exact ⟨hcalls, by simp⟩

/-! ## Visiting a callee -/

/-- A callee without a declaration becomes a node and nothing else. -/
theorem Invariant.intrinsic (hstate : Invariant declaration? root state chain finished)
    (hstack : state.stack = ⟨current, callee :: queue⟩ :: stack)
    (hdeclared : declaration? callee = none) :
    Invariant declaration? root
      { state with
        store := (state.store.getOrCreate callee declaration?).1
        stack := ⟨current, queue⟩ :: stack } chain finished := by
  obtain ⟨id, outside, rfl, _⟩ := hstate.exists_head hstack
  refine (hstate.create callee).advance hstack ?_
  intro other hother
  rw [List.mem_singleton] at hother
  subst other
  exact ⟨⟨_, hstate.wellFormed.idAt?_getOrCreate_self⟩, fun h => by simp [Declared, hdeclared] at h⟩

/-- A finished callee is linked, and is not entered again. -/
theorem Invariant.known (hstate : Invariant declaration? root state chain finished)
    (hstack : state.stack = ⟨current, callee :: queue⟩ :: stack)
    (hdeclared : Declared declaration? callee) (hfinished : callee ∈ finished) :
    Invariant declaration? root
      { state with
        store := recordCall declaration? state.store current callee
        stack := ⟨current, queue⟩ :: stack } chain finished := by
  obtain ⟨id, outside, rfl, hcurrent, hcalls⟩ := hstate.exists_head hstack
  have hrecord := hstate.record hcurrent ⟨hcalls callee (by simp), hdeclared⟩
  refine hrecord.advance hstack ?_
  intro other hother
  rw [List.mem_singleton] at hother
  subst other
  exact ⟨⟨_, idAt?_recordCall hstate.wellFormed _ _⟩,
    fun _ => ⟨linked_recordCall hstate.wellFormed hcurrent callee, hfinished⟩⟩

/-- Any other declared callee off the chain is linked and becomes its innermost function. -/
theorem Invariant.enter (hstate : Invariant declaration? root state chain finished)
    {callees : List FunctionId} (hstack : state.stack = ⟨current, callee :: queue⟩ :: stack)
    (hchain : callee ∉ chain) (hfinished : callee ∉ finished)
    (hcallees : HasCallees declaration? callee callees) :
    Invariant declaration? root
      { state with
        store := recordCall declaration? state.store current callee
        stack := ⟨(state.store.getOrCreate callee declaration?).2, callees⟩ ::
          ⟨current, queue⟩ :: stack
        active := (state.store.getOrCreate callee declaration?).2 :: state.active }
      (callee :: chain) finished := by
  obtain ⟨id, outside, rfl, hcurrent, hcalls⟩ := hstate.exists_head hstack
  have hrecord := hstate.record hcurrent ⟨hcalls callee (by simp), hcallees.declared⟩
  have hfresh : callee ∉ id :: outside ++ finished := fun hmem =>
    (List.mem_append.mp hmem).elim hchain hfinished
  exact hrecord.push hstack (idAt?_recordCall hstate.wellFormed _ _)
    (linked_recordCall hstate.wellFormed hcurrent callee) hfresh
    hcallees

end RecordCall

/-! ## Entering the root -/

/-- The state in which the root has been entered. -/
def startState (declaration? : FunctionId → Option Declaration) (root : FunctionId)
    (callees : List FunctionId) : State where
  store := (NodeStore.empty.getOrCreate root declaration?).1
  stack := [⟨(NodeStore.empty.getOrCreate root declaration?).2, callees⟩]
  active := [(NodeStore.empty.getOrCreate root declaration?).2]
  expanded := []

theorem Invariant.start {callees : List FunctionId}
    (hcallees : HasCallees declaration? root callees) :
    Invariant declaration? root (startState declaration? root callees) [root] [] := by
  have hqueued : HasCallees declaration? root ([] ++ callees) := hcallees
  exact {
    wellFormed := NodeStore.wellFormed_empty.getOrCreate
    caches := (NodeStore.caches_empty declaration?).getOrCreate
    onChain := .cons NodeStore.wellFormed_empty.idAt?_getOrCreate_self hqueued
      (by simp [Recorded]) (by simp) .nil
    active_eq := rfl
    expanded := .nil
    settled := trivial
    nodup := by simp
    reached := by
      intro id hid
      rw [List.append_nil, List.mem_singleton] at hid
      exact hid ▸ Relation.ReflTransGen.refl
    outermost := rfl
    first := NodeStore.wellFormed_empty.idAt?_getOrCreate_self
    links := by
      intro caller called hlinked
      obtain ⟨position, child, _, _, hmem⟩ :=
        NodeStore.linked_of_getOrCreate NodeStore.wellFormed_empty hlinked
      simp [NodeStore.children] at hmem }

end Builder

end ShaderCalls
