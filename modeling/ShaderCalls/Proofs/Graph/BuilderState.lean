import ShaderCalls.Graph.Builder
import ShaderCalls.Proofs.Graph.Callees
import ShaderCalls.Proofs.Graph.StoreView

/-!
# The state of the graph builder

A state of the builder is described by two lists of functions: the chain, innermost first, and the
finished functions, latest first.  This module states how a state represents the two lists and what
it has recorded of them, and determines what one round of the builder does to such a state.
-/

namespace ShaderCalls

namespace Builder

/-- Each callee has a node, and each declared one is linked to the caller and done. -/
def Recorded (declaration? : FunctionId → Option Declaration) (store : NodeStore Declaration)
    (done : List FunctionId) (caller : FunctionId) (callees : List FunctionId) : Prop :=
  ∀ callee ∈ callees, store.Has callee ∧
    (Declared declaration? callee → store.Linked caller callee ∧ callee ∈ done)

/-- Functions whose callees are all recorded, each standing before everything that it calls. -/
def Settled (declaration? : FunctionId → Option Declaration) (store : NodeStore Declaration) :
    List FunctionId → Prop
  | [] => True
  | id :: rest =>
    (∃ callees, HasCallees declaration? id callees ∧
      Recorded declaration? store rest id callees) ∧
    Settled declaration? store rest

/-- The frames of a stack belong to the functions of a chain.  Each function has recorded the
callees that left its queue; among them is the function of the next inner frame, if there is one. -/
inductive OnChain (declaration? : FunctionId → Option Declaration) (store : NodeStore Declaration)
    (finished : List FunctionId) : Option FunctionId → List FunctionId → List Frame → Prop
  | nil {inner : Option FunctionId} : OnChain declaration? store finished inner [] []
  | cons {inner : Option FunctionId} {id : FunctionId} {position : Nat}
      {visited queue chain : List FunctionId} {stack : List Frame}
      (hid : store.idAt? position = some id)
      (hcallees : HasCallees declaration? id (visited ++ queue))
      (hrecorded : Recorded declaration? store (inner.toList ++ finished) id visited)
      (hinner : ∀ next ∈ inner, next ∈ visited)
      (houter : OnChain declaration? store finished (some id) chain stack) :
      OnChain declaration? store finished inner (id :: chain) (⟨position, queue⟩ :: stack)

/-- What holds at the head of the loop. -/
structure Invariant (declaration? : FunctionId → Option Declaration) (root : FunctionId)
    (state : State) (chain finished : List FunctionId) : Prop where
  wellFormed : state.store.WellFormed
  caches : state.store.Caches declaration?
  onChain : OnChain declaration? state.store finished none chain state.stack
  active_eq : state.active = state.stack.map (·.node)
  expanded : List.Forall₂ (fun position id => state.store.idAt? position = some id)
    state.expanded finished
  settled : Settled declaration? state.store finished
  nodup : (chain ++ finished).Nodup
  reached : ∀ id ∈ chain ++ finished, Reaches declaration? root id
  outermost : chain.getLast?.or finished.head? = some root
  first : state.store.idAt? 0 = some root
  links : ∀ caller callee, state.store.Linked caller callee →
    CallsDeclared declaration? caller callee ∧ caller ∈ chain ++ finished

variable {declaration? : FunctionId → Option Declaration}
variable {store larger : NodeStore Declaration}

/-! ## Growing stores and lists -/

theorem Recorded.mono {done later : List FunctionId} {caller : FunctionId}
    {callees : List FunctionId} (hrecorded : Recorded declaration? store done caller callees)
    (hextends : store.Extends larger) (hdone : ∀ id ∈ done, id ∈ later) :
    Recorded declaration? larger later caller callees := by
  intro callee hcallee
  obtain ⟨hhas, hdeclared⟩ := hrecorded callee hcallee
  refine ⟨hextends.has hhas, fun h => ?_⟩
  obtain ⟨hlinked, hmem⟩ := hdeclared h
  exact ⟨hextends.linked hlinked, hdone callee hmem⟩

theorem Settled.mono {finished : List FunctionId}
    (hsettled : Settled declaration? store finished) (hextends : store.Extends larger) :
    Settled declaration? larger finished := by
  induction finished with
  | nil => trivial
  | cons id rest ih =>
      obtain ⟨⟨callees, hcallees, hrecorded⟩, hrest⟩ := hsettled
      exact ⟨⟨callees, hcallees, hrecorded.mono hextends fun _ h => h⟩, ih hrest⟩

theorem OnChain.mono {finished later : List FunctionId} {inner : Option FunctionId}
    {chain : List FunctionId} {stack : List Frame}
    (honChain : OnChain declaration? store finished inner chain stack)
    (hextends : store.Extends larger) (hfinished : ∀ id ∈ finished, id ∈ later) :
    OnChain declaration? larger later inner chain stack := by
  induction honChain with
  | nil => exact .nil
  | cons hid hcallees hrecorded hinner _ ih =>
      refine .cons (hextends.idAt? hid) hcallees (hrecorded.mono hextends ?_) hinner ih
      intro id hmem
      exact (List.mem_append.mp hmem).elim (List.mem_append_left _)
        fun h => List.mem_append_right _ (hfinished id h)

/-! ## The chain of a state -/

section Chain

variable {finished chain : List FunctionId} {inner : Option FunctionId} {stack : List Frame}

theorem OnChain.positions (honChain : OnChain declaration? store finished inner chain stack) :
    List.Forall₂ (fun position id => store.idAt? position = some id)
      (stack.map (·.node)) chain := by
  induction honChain with
  | nil => exact .nil
  | cons hid _ _ _ _ ih => exact .cons hid ih

theorem OnChain.declared (honChain : OnChain declaration? store finished inner chain stack) :
    ∀ id ∈ chain, Declared declaration? id := by
  induction honChain with
  | nil => simp
  | cons _ hcallees _ _ _ ih => exact List.forall_mem_cons.mpr ⟨hcallees.declared, ih⟩

theorem OnChain.has (honChain : OnChain declaration? store finished inner chain stack) :
    ∀ id ∈ chain, store.Has id := by
  induction honChain with
  | nil => simp
  | cons hid _ _ _ _ ih => exact List.forall_mem_cons.mpr ⟨⟨_, hid⟩, ih⟩

/-- Each function of a chain is called by the next outer one. -/
theorem OnChain.isChain (honChain : OnChain declaration? store finished inner chain stack) :
    (inner.toList ++ chain).IsChain (fun callee caller => Calls declaration? caller callee) := by
  induction honChain with
  | nil => cases ‹Option FunctionId› <;> simp
  | @cons inner id position visited queue chain stack _ hcallees _ hinner _ ih =>
      cases inner with
      | none => exact ih
      | some next =>
          refine List.IsChain.cons_cons ?_ ih
          exact (hcallees.mem_iff next).mp (List.mem_append_left _ (hinner next rfl))

/-- A position is listed exactly if the identity of its node is. -/
theorem mem_positions_iff (hstore : store.WellFormed) {positions : List Nat}
    {ids : List FunctionId}
    (hids : List.Forall₂ (fun position id => store.idAt? position = some id) positions ids)
    {position : Nat} {id : FunctionId} (hposition : store.idAt? position = some id) :
    position ∈ positions ↔ id ∈ ids := by
  induction hids with
  | nil => simp
  | @cons first firstId _ _ hfirst _ ih =>
      have hhead : position = first ↔ id = firstId := by
        constructor
        · rintro rfl
          exact Option.some.inj (hposition.symm.trans hfirst)
        · rintro rfl
          exact hstore.idAt?_inj hposition hfirst
      rw [List.mem_cons, List.mem_cons, hhead, ih]

/-- The frames down to a function of the chain are found by its position. -/
theorem frames_to_position (hstore : store.WellFormed) {stack : List Frame}
    {inside outside : List FunctionId} {callee : FunctionId} {position : Nat}
    (hids : List.Forall₂ (fun position id => store.idAt? position = some id)
      (stack.map (·.node)) (inside ++ callee :: outside))
    (hposition : store.idAt? position = some callee) (hfirst : callee ∉ inside) :
    ∃ start, stack.find? (·.node = position) = some start ∧
      (stack.takeWhile (·.node != position) ++ [start]).filterMap
        (fun frame => store.idAt? frame.node) = inside ++ [callee] := by
  induction inside generalizing stack with
  | nil =>
      cases stack with
      | nil => cases hids
      | cons frame stack =>
          have hframe : store.idAt? frame.node = some callee := (List.forall₂_cons.mp hids).1
          have hsame : frame.node = position := hstore.idAt?_inj hframe hposition
          exact ⟨frame, by simp [hsame], by simp [hsame, hposition]⟩
  | cons id inside ih =>
      cases stack with
      | nil => cases hids
      | cons frame stack =>
          have hframe : store.idAt? frame.node = some id := (List.forall₂_cons.mp hids).1
          have hother : frame.node ≠ position := by
            rintro rfl
            have hsame : id = callee := Option.some.inj (hframe.symm.trans hposition)
            exact hfirst (hsame ▸ List.mem_cons_self)
          obtain ⟨start, hstart, hslice⟩ :=
            ih (List.forall₂_cons.mp hids).2 fun hmem => hfirst (List.mem_cons_of_mem _ hmem)
          refine ⟨start, by simpa [hother] using hstart, ?_⟩
          simp only [bne_iff_ne, ne_eq, hother, not_false_eq_true, List.takeWhile_cons_of_pos,
            List.cons_append, List.filterMap_cons, hframe, hslice]

end Chain

/-! ## One round -/

section Round

variable {root : FunctionId} {state : State} {chain finished : List FunctionId}

theorem Invariant.mem_active_iff (hstate : Invariant declaration? root state chain finished)
    {position : Nat} {id : FunctionId} (hposition : state.store.idAt? position = some id) :
    position ∈ state.active ↔ id ∈ chain := by
  rw [hstate.active_eq]
  exact mem_positions_iff hstate.wellFormed hstate.onChain.positions hposition

/-- The node of a callee, old or new, is expanded exactly if the callee is finished. -/
theorem Invariant.mem_expanded_getOrCreate
    (hstate : Invariant declaration? root state chain finished) (callee : FunctionId) :
    (state.store.getOrCreate callee declaration?).2 ∈ state.expanded ↔ callee ∈ finished := by
  have hexpanded : List.Forall₂ (fun position id =>
      (state.store.getOrCreate callee declaration?).1.idAt? position = some id)
      state.expanded finished :=
    hstate.expanded.imp fun _ _ hid => NodeStore.idAt?_getOrCreate_of_some hid
  exact mem_positions_iff hstate.wellFormed.getOrCreate hexpanded
    hstate.wellFormed.idAt?_getOrCreate_self

theorem Invariant.activeCycle_of_notMem
    (hstate : Invariant declaration? root state chain finished) {callee : FunctionId}
    (hcallee : callee ∉ chain) : activeCycle state callee = none := by
  unfold activeCycle
  cases hlookup : state.store.lookup? callee with
  | none => rfl
  | some position =>
      have hposition := hstate.wellFormed.lookup?_eq_some_iff.mp hlookup
      simp [mt (hstate.mem_active_iff hposition).mp hcallee]

/-- A call back into the chain is reported with the part of the chain from the called function
down to the caller. -/
theorem Invariant.activeCycle_of_split
    (hstate : Invariant declaration? root state chain finished) {callee : FunctionId}
    {inside outside : List FunctionId} (hsplit : chain = inside ++ callee :: outside) :
    activeCycle state callee = some (callee :: inside.reverse) := by
  have hmem : callee ∈ chain := by simp [hsplit]
  obtain ⟨position, hposition⟩ := hstate.onChain.has callee hmem
  have hlookup := hstate.wellFormed.lookup?_eq_some_iff.mpr hposition
  have hfirst : callee ∉ inside := by
    have hnodup := hstate.nodup.of_append_left
    rw [hsplit, List.nodup_middle, List.nodup_cons] at hnodup
    exact fun h => hnodup.1 (List.mem_append_left _ h)
  obtain ⟨start, hstart, hslice⟩ :=
    frames_to_position hstate.wellFormed (hsplit ▸ hstate.onChain.positions) hposition hfirst
  have hids : (fun frame : Frame => (state.store.node? frame.node).map (·.id)) =
      fun frame => state.store.idAt? frame.node := rfl
  simp only [activeCycle, hlookup, Option.bind_eq_bind, Option.bind_some,
    if_pos ((hstate.mem_active_iff hposition).mpr hmem), hstart, hids, List.filterMap_reverse,
    hslice]
  simp

/-- The store after a declared callee was met: it has a node, which is linked to the caller. -/
def recordCall (declaration? : FunctionId → Option Declaration) (store : NodeStore Declaration)
    (current : Nat) (callee : FunctionId) : NodeStore Declaration :=
  (store.getOrCreate callee declaration?).1.link current (store.getOrCreate callee declaration?).2

/-- The outcomes of one round from a state that represents a chain and the finished functions. -/
inductive Outcome (declaration? : FunctionId → Option Declaration) (state : State)
    (chain finished : List FunctionId) : Except DiscoveryError (Option State) → Prop
  | stop (hstack : state.stack = []) (hchain : chain = []) :
      Outcome declaration? state chain finished (.ok none)
  | leave {current : Nat} {stack : List Frame} {id : FunctionId} {outside : List FunctionId}
      (hstack : state.stack = ⟨current, []⟩ :: stack) (hchain : chain = id :: outside) :
      Outcome declaration? state chain finished (.ok (some
        { state with
          stack
          active := stack.map (·.node)
          expanded := current :: state.expanded }))
  | cycle {current : Nat} {queue : List FunctionId} {stack : List Frame} {callee : FunctionId}
      {inside outside : List FunctionId}
      (hstack : state.stack = ⟨current, callee :: queue⟩ :: stack)
      (hchain : chain = inside ++ callee :: outside) :
      Outcome declaration? state chain finished (.error (.cyclicCall (callee :: inside.reverse)))
  | intrinsic {current : Nat} {queue : List FunctionId} {stack : List Frame}
      {callee : FunctionId}
      (hstack : state.stack = ⟨current, callee :: queue⟩ :: stack)
      (hchain : callee ∉ chain) (hdeclared : declaration? callee = none) :
      Outcome declaration? state chain finished (.ok (some
        { state with
          store := (state.store.getOrCreate callee declaration?).1
          stack := ⟨current, queue⟩ :: stack }))
  | known {current : Nat} {queue : List FunctionId} {stack : List Frame} {callee : FunctionId}
      (hstack : state.stack = ⟨current, callee :: queue⟩ :: stack)
      (hchain : callee ∉ chain) (hdeclared : Declared declaration? callee)
      (hfinished : callee ∈ finished) :
      Outcome declaration? state chain finished (.ok (some
        { state with
          store := recordCall declaration? state.store current callee
          stack := ⟨current, queue⟩ :: stack }))
  | enter {current : Nat} {queue callees : List FunctionId} {stack : List Frame}
      {callee : FunctionId}
      (hstack : state.stack = ⟨current, callee :: queue⟩ :: stack)
      (hchain : callee ∉ chain) (hfinished : callee ∉ finished)
      (hcallees : HasCallees declaration? callee callees) :
      Outcome declaration? state chain finished (.ok (some
        { state with
          store := recordCall declaration? state.store current callee
          stack := ⟨(state.store.getOrCreate callee declaration?).2, callees⟩ ::
            ⟨current, queue⟩ :: stack
          active := (state.store.getOrCreate callee declaration?).2 :: state.active }))
  | unresolved {current : Nat} {queue : List FunctionId} {stack : List Frame}
      {callee : FunctionId} {declaration : Declaration} {call : Call}
      (hstack : state.stack = ⟨current, callee :: queue⟩ :: stack)
      (hchain : callee ∉ chain) (hfinished : callee ∉ finished)
      (hdeclaration : declaration? callee = some declaration)
      (herror : declaration.callees callee = .error (.unresolvedCall callee call.text))
      (hfirst : Call.FirstUnresolved declaration.calls call) :
      Outcome declaration? state chain finished (.error (.unresolvedCall callee call.text))

/-- Entering a declared function queues its callees. -/
theorem enter_eq {position : Nat} {id : FunctionId} {declaration : Declaration}
    (hcaches : state.store.Caches declaration?)
    (hposition : state.store.idAt? position = some id)
    (hdeclaration : declaration? id = some declaration) :
    enter state position = (declaration.callees id).map fun queue =>
      { state with
        stack := ⟨position, queue⟩ :: state.stack
        active := position :: state.active } := by
  obtain ⟨node, hnode, rfl⟩ := NodeStore.idAt?_eq_some_iff.mp hposition
  have hcallees : Builder.callees state.store position = declaration.callees node.id := by
    simp [Builder.callees, hnode, hcaches position node hnode, hdeclaration]
  rw [enter, hcallees]
  cases declaration.callees node.id <;> rfl

theorem step_leave {current : Nat} {stack : List Frame}
    (hstack : state.stack = ⟨current, []⟩ :: stack) :
    step declaration? state = .ok (some
      { state with
        stack
        active := state.active.filter (· != current)
        expanded := current :: state.expanded }) := by
  simp only [step, hstack]

theorem step_visit {current : Nat} {queue : List FunctionId} {stack : List Frame}
    {callee : FunctionId} (hstack : state.stack = ⟨current, callee :: queue⟩ :: stack)
    (hcycle : activeCycle state callee = none) (hstore : state.store.WellFormed)
    (hcaches : state.store.Caches declaration?) :
    step declaration? state =
      if (declaration? callee).isSome then
        if (state.store.getOrCreate callee declaration?).2 ∈ state.expanded then
          .ok (some
            { state with
              store := recordCall declaration? state.store current callee
              stack := ⟨current, queue⟩ :: stack })
        else
          (enter
            { state with
              store := recordCall declaration? state.store current callee
              stack := ⟨current, queue⟩ :: stack }
            (state.store.getOrCreate callee declaration?).2).map some
      else
        .ok (some
          { state with
            store := (state.store.getOrCreate callee declaration?).1
            stack := ⟨current, queue⟩ :: stack }) := by
  have hcreated : (state.store.getOrCreate callee declaration?).1.Caches declaration? :=
    hcaches.getOrCreate
  have hresolved := hcreated.any_isResolved hstore.idAt?_getOrCreate_self
  simp only [step, hstack, hcycle, hresolved]
  rfl

/-- Each round has one of the outcomes. -/
theorem Invariant.outcome (hstate : Invariant declaration? root state chain finished) :
    Outcome declaration? state chain finished (step declaration? state) := by
  generalize hframes : state.stack = frames
  have honChain : OnChain declaration? state.store finished none chain frames :=
    hframes ▸ hstate.onChain
  cases honChain with
  | nil =>
      rw [Builder.step, hframes]
      exact .stop hframes rfl
  | @cons _ id position visited queue outside stack hid _ _ _ houter =>
      cases queue with
      | nil =>
          have hnotMem : position ∉ stack.map (·.node) := by
            rw [mem_positions_iff hstate.wellFormed houter.positions hid]
            exact fun hmem => (List.nodup_cons.mp hstate.nodup).1 (List.mem_append_left _ hmem)
          have hactive : state.active.filter (· != position) = stack.map (·.node) := by
            rw [hstate.active_eq, hframes, List.map_cons, List.filter_cons_of_neg (by simp),
              List.filter_eq_self]
            exact fun other hother => bne_iff_ne.mpr fun heq => hnotMem (heq ▸ hother)
          rw [step_leave hframes, hactive]
          exact .leave hframes rfl
      | cons callee queue =>
          by_cases hchain : callee ∈ id :: outside
          · obtain ⟨inside, rest, hsplit⟩ := List.append_of_mem hchain
            simp only [Builder.step, hframes, hstate.activeCycle_of_split hsplit]
            exact .cycle hframes hsplit
          rw [step_visit hframes (hstate.activeCycle_of_notMem hchain) hstate.wellFormed
            hstate.caches]
          cases hdeclaration : declaration? callee with
          | none => exact .intrinsic hframes hchain hdeclaration
          | some declaration =>
              have hchild := hstate.mem_expanded_getOrCreate callee
              by_cases hfinished : callee ∈ finished
              · simp only [Option.isSome_some, if_true, if_pos (hchild.mpr hfinished)]
                exact .known hframes hchain (declared_of_eq_some hdeclaration) hfinished
              simp only [Option.isSome_some, if_true, if_neg (mt hchild.mp hfinished)]
              have hposition : (recordCall declaration? state.store position callee).idAt?
                  (state.store.getOrCreate callee declaration?).2 = some callee := by
                simpa [recordCall] using hstate.wellFormed.idAt?_getOrCreate_self
              have hcaches : (recordCall declaration? state.store position callee).Caches
                  declaration? := hstate.caches.getOrCreate.link
              rw [enter_eq hcaches hposition hdeclaration]
              rcases hasCallees_or_firstUnresolved hdeclaration with
                ⟨callees, hok, hcallees⟩ | ⟨call, herror, hfirst⟩
              · rw [hok]
                exact .enter hframes hchain hfinished hcallees
              · rw [herror]
                exact .unresolved hframes hchain hfinished hdeclaration herror hfirst

end Round

end Builder

end ShaderCalls
