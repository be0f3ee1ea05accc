import ShaderCalls.Proofs.Graph.BuilderRun

/-!
# The builder refines plain recursion

The plain algorithm knows nothing but the chain of functions that are being expanded, and expands a
declared callee every time it meets one.  The builder skips the functions that it has finished.  It
returns the same graph all the same: expanding a finished function again records nothing new, and it
cannot meet the chain, since everything behind it is finished too.
-/

namespace ShaderCalls

/-! ## The plain algorithm -/

/-- The number of declared functions that are not on a chain. -/
def Resolver.offChain (resolver : Resolver) (chain : List FunctionId) : Nat :=
  (resolver.declared.filter (· ∉ chain)).length

theorem Resolver.offChain_append_lt {resolver : Resolver} {chain : List FunctionId}
    {callee : FunctionId} (hfresh : callee ∉ chain)
    (hdeclared : (resolver.declaration? callee).isSome) :
    resolver.offChain (chain ++ [callee]) < resolver.offChain chain := by
  have hmem : callee ∈ resolver.declared.filter (· ∉ chain) := by
    simpa [hfresh] using resolver.mem_declared hdeclared
  have hfilter : resolver.declared.filter (· ∉ chain ++ [callee]) =
      (resolver.declared.filter (· ∉ chain)).filter (· ≠ callee) := by
    rw [List.filter_filter]
    refine List.filter_congr fun id _ => ?_
    simp only [List.mem_append, List.mem_singleton, not_or]
    rw [← Bool.decide_and]
    simp [and_comm]
  rw [offChain, hfilter]
  exact List.length_filter_lt_length_iff_exists.mpr ⟨callee, hmem, by simp⟩

/-- Visits callees of the function at the end of a chain, one after the other.  A callee on the
chain is an error that names the chain from there on.  Any other callee gets a node; a declared one
is linked, put on the chain and expanded. -/
def plainExpand (resolver : Resolver) (chain : List FunctionId) (current : Nat) :
    List FunctionId → NodeStore Declaration → Except DiscoveryError (NodeStore Declaration)
  | [], store => .ok store
  | callee :: queue, store =>
    if callee ∈ chain then .error (.cyclicCall (chain.dropWhile (· != callee)))
    else
      let (store, child) := store.getOrCreate callee resolver.declaration?
      match _ : resolver.declaration? callee with
      | none => plainExpand resolver chain current queue store
      | some declaration => do
        let callees ← declaration.callees callee
        let store ← plainExpand resolver (chain ++ [callee]) child callees
          (store.link current child)
        plainExpand resolver chain current queue store
termination_by queue => (resolver.offChain chain, queue.length)
decreasing_by
  · exact Prod.Lex.right _ (by simp)
  · exact Prod.Lex.left _ _ (Resolver.offChain_append_lt ‹_› (by simp [*]))
  · exact Prod.Lex.right _ (by simp)

/-- The call graph of everything that is reachable from a root, by plain recursion. -/
def plainBuild (resolver : Resolver) (root : FunctionId) :
    Except DiscoveryError (CallGraph Declaration) :=
  match resolver.declaration? root with
  | none => .error (.rootResolution root)
  | some declaration => do
    let (store, position) := NodeStore.empty.getOrCreate root resolver.declaration?
    let callees ← declaration.callees root
    let store ← plainExpand resolver [root] position callees store
    .ok ⟨store, position⟩

section Visit

variable {resolver : Resolver} {chain queue : List FunctionId} {current : Nat}
variable {callee : FunctionId} {store : NodeStore Declaration}

@[simp]
theorem plainExpand_nil : plainExpand resolver chain current [] store = .ok store := by
  rw [plainExpand]

theorem plainExpand_of_mem (hchain : callee ∈ chain) :
    plainExpand resolver chain current (callee :: queue) store =
      .error (.cyclicCall (chain.dropWhile (· != callee))) := by
  rw [plainExpand, if_pos hchain]

theorem plainExpand_of_none (hchain : callee ∉ chain)
    (hdeclared : resolver.declaration? callee = none) :
    plainExpand resolver chain current (callee :: queue) store =
      plainExpand resolver chain current queue
        (store.getOrCreate callee resolver.declaration?).1 := by
  rw [plainExpand, if_neg hchain]
  dsimp only
  split
  · rfl
  · next hother => exact absurd (hdeclared.symm.trans hother) (by simp)

theorem plainExpand_of_some {declaration : Declaration} (hchain : callee ∉ chain)
    (hdeclared : resolver.declaration? callee = some declaration) :
    plainExpand resolver chain current (callee :: queue) store =
      (declaration.callees callee).bind fun callees =>
        (plainExpand resolver (chain ++ [callee])
          (store.getOrCreate callee resolver.declaration?).2 callees
          (Builder.recordCall resolver.declaration? store current callee)).bind fun later =>
            plainExpand resolver chain current queue later := by
  rw [plainExpand, if_neg hchain]
  dsimp only
  split
  · next hother => exact absurd (hdeclared.symm.trans hother) (by simp)
  · next other hother =>
      cases hdeclared.symm.trans hother
      rfl

end Visit

namespace Builder

variable {resolver : Resolver} {store : NodeStore Declaration}

/-! ## Expanding a finished function again -/

theorem recordCall_of_linked (hstore : store.WellFormed) {current child : Nat}
    {id callee : FunctionId} (hcurrent : store.idAt? current = some id)
    (hchild : store.idAt? child = some callee) (hlinked : store.Linked id callee) :
    recordCall resolver.declaration? store current callee = store := by
  rw [recordCall, hstore.getOrCreate_of_idAt? hchild]
  exact hstore.link_of_mem (hstore.mem_children_of_linked hcurrent hchild hlinked)

/-- Visiting recorded callees changes nothing if expanding the declared ones changes nothing. -/
theorem plainExpand_of_recorded (hstore : store.WellFormed) {current : Nat} {id : FunctionId}
    {chain queue done : List FunctionId} (hcurrent : store.idAt? current = some id)
    (hrecorded : Recorded resolver.declaration? store done id queue)
    (hchain : ∀ callee ∈ queue, callee ∉ chain)
    (hdone : ∀ callee ∈ done, ∀ child, store.idAt? child = some callee →
      ∃ callees, HasCallees resolver.declaration? callee callees ∧
        plainExpand resolver (chain ++ [callee]) child callees store = .ok store) :
    plainExpand resolver chain current queue store = .ok store := by
  induction queue with
  | nil => exact plainExpand_nil
  | cons callee queue ih =>
      obtain ⟨hfresh, hqueue⟩ := List.forall_mem_cons.mp hchain
      obtain ⟨⟨⟨child, hchild⟩, hdeclared⟩, hrest⟩ := List.forall_mem_cons.mp hrecorded
      have hrest : plainExpand resolver chain current queue store = .ok store := ih hrest hqueue
      cases hdeclaration : resolver.declaration? callee with
      | none =>
          rw [plainExpand_of_none hfresh hdeclaration, hstore.getOrCreate_of_idAt? hchild, hrest]
      | some declaration =>
          obtain ⟨hlinked, hmem⟩ := hdeclared (declared_of_eq_some hdeclaration)
          obtain ⟨callees, ⟨_, hsame, hok⟩, hexpand⟩ := hdone callee hmem child hchild
          cases hdeclaration.symm.trans hsame
          rw [plainExpand_of_some hfresh hdeclaration, hok,
            recordCall_of_linked hstore hcurrent hchild hlinked,
            hstore.getOrCreate_of_idAt? hchild]
          simp [Except.bind, hexpand, hrest]

/-- Expanding a finished function again changes nothing, whatever chain of declared functions it is
met from: what it calls stands behind it among the finished functions, and so off the chain. -/
theorem Settled.plainExpand (hstore : store.WellFormed) {finished chain : List FunctionId}
    (hsettled : Settled resolver.declaration? store finished) (hnodup : finished.Nodup)
    (hchain : ∀ id ∈ chain, Declared resolver.declaration? id ∧ id ∉ finished) {id : FunctionId}
    (hid : id ∈ finished) {position : Nat} (hposition : store.idAt? position = some id) :
    ∃ callees, HasCallees resolver.declaration? id callees ∧
      plainExpand resolver (chain ++ [id]) position callees store = .ok store := by
  induction finished generalizing chain id position with
  | nil => cases hid
  | cons first rest ih =>
      obtain ⟨⟨callees, hcallees, hrecorded⟩, hrest⟩ := hsettled
      obtain ⟨hfirst, hdistinct⟩ := List.nodup_cons.mp hnodup
      have hbehind : ∀ other ∈ chain, Declared resolver.declaration? other ∧ other ∉ rest :=
        fun other hother => (hchain other hother).imp_right (mt (List.mem_cons_of_mem first))
      rcases List.mem_cons.mp hid with rfl | hid
      · have hlonger : ∀ other ∈ chain ++ [id],
            Declared resolver.declaration? other ∧ other ∉ rest := by
          intro other hother
          rcases List.mem_append.mp hother with hother | hlast
          · exact hbehind other hother
          · rw [List.mem_singleton] at hlast
            exact hlast ▸ ⟨hcallees.declared, hfirst⟩
        refine ⟨callees, hcallees, plainExpand_of_recorded hstore hposition hrecorded ?_ ?_⟩
        · intro callee hcallee hmem
          obtain ⟨hdeclared, hnotMem⟩ := hlonger callee hmem
          exact hnotMem ((hrecorded callee hcallee).2 hdeclared).2
        · exact fun callee hmem child hchild => ih hrest hdistinct hlonger hmem hchild
      · exact ih hrest hdistinct hbehind hid hposition

/-! ## The rest of the work -/

/-- What plain recursion still has to do for the functions of a chain: the callees in the queue of
the innermost function, then those of the next outer one, and so on. -/
def resume (resolver : Resolver) : List FunctionId → List Frame → NodeStore Declaration →
    Except DiscoveryError (NodeStore Declaration)
  | id :: outside, frame :: stack, store =>
    (plainExpand resolver (id :: outside).reverse frame.node frame.queue store).bind fun later =>
      resume resolver outside stack later
  | _, _, store => .ok store

variable {root : FunctionId} {state later : State} {chain finished : List FunctionId}

/-- A state represents one chain only. -/
theorem Invariant.chain_eq {declaration? : FunctionId → Option Declaration}
    {otherChain otherFinished : List FunctionId}
    (hstate : Invariant declaration? root state chain finished)
    (hother : Invariant declaration? root state otherChain otherFinished) :
    otherChain = chain := by
  have hunique : Relator.RightUnique fun position id => state.store.idAt? position = some id :=
    fun _ _ _ hleft hright => Option.some.inj (hleft.symm.trans hright)
  exact hunique.forall₂ hother.onChain.positions hstate.onChain.positions

theorem Invariant.chain_notMem {declaration? : FunctionId → Option Declaration}
    (hstate : Invariant declaration? root state chain finished) :
    ∀ id ∈ chain.reverse, Declared declaration? id ∧ id ∉ finished := by
  intro id hid
  rw [List.mem_reverse] at hid
  exact ⟨hstate.onChain.declared id hid, fun hmem => hstate.nodup.disjoint hid hmem⟩

section Round

variable {current : Nat} {callee : FunctionId} {queue : List FunctionId} {stack : List Frame}

theorem resume_cons (hstack : state.stack = ⟨current, queue⟩ :: stack) {id : FunctionId}
    {outside : List FunctionId} (hchain : chain = id :: outside) :
    resume resolver chain state.stack state.store =
      (plainExpand resolver chain.reverse current queue state.store).bind fun later =>
        resume resolver outside stack later := by
  rw [hstack, hchain, resume]

/-- A call back into the chain is the same error in plain recursion. -/
theorem Invariant.resume_cycle
    (hstate : Invariant resolver.declaration? root state chain finished)
    (hstack : state.stack = ⟨current, callee :: queue⟩ :: stack)
    {inside outside : List FunctionId} (hsplit : chain = inside ++ callee :: outside) :
    resume resolver chain state.stack state.store =
      .error (.cyclicCall (callee :: inside.reverse)) := by
  obtain ⟨id, rest, hchain, _, _⟩ := hstate.exists_head hstack
  have hmem : callee ∈ chain.reverse := by simp [hsplit]
  have hslice : chain.reverse.dropWhile (· != callee) = callee :: inside.reverse := by
    have hnodup := hstate.nodup.of_append_left
    rw [hsplit, List.nodup_middle, List.nodup_cons] at hnodup
    have houtside : ∀ other ∈ outside.reverse, (other != callee) = true := by
      intro other hother
      refine bne_iff_ne.mpr fun hsame => hnodup.1 ?_
      exact List.mem_append_right inside (hsame ▸ List.mem_reverse.mp hother)
    rw [hsplit, List.reverse_append, List.reverse_cons, List.append_assoc,
      List.dropWhile_append_of_pos houtside]
    simp
  rw [resume_cons hstack hchain, plainExpand_of_mem hmem, hslice]
  rfl

theorem Invariant.resume_intrinsic
    (hstate : Invariant resolver.declaration? root state chain finished)
    (hstack : state.stack = ⟨current, callee :: queue⟩ :: stack) (hfresh : callee ∉ chain)
    (hdeclared : resolver.declaration? callee = none) :
    resume resolver chain state.stack state.store =
      resume resolver chain (⟨current, queue⟩ :: stack)
        (state.store.getOrCreate callee resolver.declaration?).1 := by
  obtain ⟨id, rest, hchain, _, _⟩ := hstate.exists_head hstack
  rw [resume_cons hstack hchain, plainExpand_of_none (mt List.mem_reverse.mp hfresh) hdeclared]
  rw [hchain, resume]

/-- Plain recursion expands a declared callee, whether or not it is finished. -/
theorem Invariant.resume_declared
    (hstate : Invariant resolver.declaration? root state chain finished)
    (hstack : state.stack = ⟨current, callee :: queue⟩ :: stack) (hfresh : callee ∉ chain)
    {declaration : Declaration} (hdeclared : resolver.declaration? callee = some declaration) :
    resume resolver chain state.stack state.store =
      (declaration.callees callee).bind fun callees =>
        resume resolver (callee :: chain)
          (⟨(state.store.getOrCreate callee resolver.declaration?).2, callees⟩ ::
            ⟨current, queue⟩ :: stack)
          (recordCall resolver.declaration? state.store current callee) := by
  obtain ⟨id, rest, rfl, _, _⟩ := hstate.exists_head hstack
  have hlonger : (callee :: id :: rest).reverse = (id :: rest).reverse ++ [callee] :=
    List.reverse_cons
  rw [resume_cons hstack rfl, plainExpand_of_some (mt List.mem_reverse.mp hfresh) hdeclared]
  cases declaration.callees callee with
  | error error => rfl
  | ok callees =>
      simp only [Except.bind, resume, hlonger]
      cases plainExpand resolver ((id :: rest).reverse ++ [callee])
        (state.store.getOrCreate callee resolver.declaration?).2 callees
        (recordCall resolver.declaration? state.store current callee) <;> rfl

/-- For a finished callee the expansion changes nothing, so plain recursion may skip it too. -/
theorem Invariant.resume_known
    (hstate : Invariant resolver.declaration? root state chain finished)
    (hstack : state.stack = ⟨current, callee :: queue⟩ :: stack) (hfresh : callee ∉ chain)
    (hdeclared : Declared resolver.declaration? callee) (hfinished : callee ∈ finished) :
    resume resolver chain state.stack state.store =
      resume resolver chain (⟨current, queue⟩ :: stack)
        (recordCall resolver.declaration? state.store current callee) := by
  have hlater := hstate.known hstack hdeclared hfinished
  obtain ⟨callees, ⟨declaration, hdeclaration, hok⟩, hexpand⟩ :=
    hlater.settled.plainExpand hlater.wellFormed hstate.nodup.of_append_right hlater.chain_notMem
      hfinished (idAt?_recordCall hstate.wellFormed current callee)
  rw [hstate.resume_declared hstack hfresh hdeclaration, hok]
  simp only [Except.bind, resume, List.reverse_cons, hexpand]

end Round

/-- A round leaves the rest of the work as it is. -/
theorem Invariant.resume_next
    (hstate : Invariant resolver.declaration? root state chain finished)
    {laterChain laterFinished : List FunctionId}
    (hlater : Invariant resolver.declaration? root later laterChain laterFinished)
    (hstep : step resolver.declaration? state = .ok (some later)) :
    resume resolver laterChain later.stack later.store =
      resume resolver chain state.stack state.store := by
  have houtcome := hstate.outcome
  rw [hstep] at houtcome
  cases houtcome with
  | leave hstack hchain =>
      subst hchain
      cases (hstate.leave hstack).chain_eq hlater
      rw [resume_cons hstack rfl, plainExpand_nil]
      rfl
  | intrinsic hstack hchain hdeclared =>
      cases (hstate.intrinsic hstack hdeclared).chain_eq hlater
      exact (hstate.resume_intrinsic hstack hchain hdeclared).symm
  | known hstack hchain hdeclared hfinished =>
      cases (hstate.known hstack hdeclared hfinished).chain_eq hlater
      exact (hstate.resume_known hstack hchain hdeclared hfinished).symm
  | enter hstack hchain hfinished hcallees =>
      cases (hstate.enter hstack hchain hfinished hcallees).chain_eq hlater
      obtain ⟨declaration, hdeclaration, hok⟩ := hcallees
      rw [hstate.resume_declared hstack hchain hdeclaration, hok]
      rfl

/-- The error of a round is the error of the rest of the work. -/
theorem Invariant.resume_error
    (hstate : Invariant resolver.declaration? root state chain finished) {error : DiscoveryError}
    (hstep : step resolver.declaration? state = .error error) :
    resume resolver chain state.stack state.store = .error error := by
  have houtcome := hstate.outcome
  rw [hstep] at houtcome
  cases houtcome with
  | cycle hstack hchain => exact hstate.resume_cycle hstack hchain
  | unresolved hstack hchain _ hdeclaration herror _ =>
      rw [hstate.resume_declared hstack hchain hdeclaration, herror]
      rfl

/-- A run with rounds enough does the rest of the work. -/
theorem Invariant.run_eq_resume {rounds bound : Nat}
    (hstate : Invariant resolver.declaration? root state chain finished)
    (hbound : ∀ ids, ids.Nodup → (∀ id ∈ ids, Declared resolver.declaration? id) →
      roundsOf resolver.declaration? ids ≤ bound)
    (hrounds : pending state.stack + bound ≤
      rounds + roundsOf resolver.declaration? (chain ++ finished)) :
    (run resolver.declaration? rounds state).map (·.store) =
      resume resolver chain state.stack state.store := by
  induction rounds generalizing state chain finished with
  | zero =>
      obtain ⟨hempty, rfl⟩ := hstate.eq_nil_of_paid hbound (by omega)
      rw [hempty]
      rfl
  | succ rounds ih =>
      rw [run]
      have houtcome := hstate.outcome
      cases hstep : step resolver.declaration? state with
      | error error =>
          rw [hstate.resume_error hstep]
          rfl
      | ok next =>
          cases next with
          | none =>
              rw [hstep] at houtcome
              cases houtcome with
              | stop hstack hchain =>
                  rw [hstack, hchain]
                  rfl
          | some later =>
              obtain ⟨laterChain, laterFinished, hlater, hcount⟩ := hstate.next hstep
              rw [← hstate.resume_next hlater hstep]
              exact ih hlater (by omega)

theorem resume_startState (callees : List FunctionId) :
    resume resolver [root] (startState resolver.declaration? root callees).stack
        (startState resolver.declaration? root callees).store =
      plainExpand resolver [root] (NodeStore.empty.getOrCreate root resolver.declaration?).2
        callees (NodeStore.empty.getOrCreate root resolver.declaration?).1 := by
  simp only [startState, resume, List.reverse_singleton]
  cases plainExpand resolver [root] (NodeStore.empty.getOrCreate root resolver.declaration?).2
    callees (NodeStore.empty.getOrCreate root resolver.declaration?).1 <;> rfl

/-- For every resolver and every root, building gives the graph of plain recursion or the same
error, although a finished function is not expanded again. -/
theorem build_eq_plainBuild (resolver : Resolver) (root : FunctionId) :
    build resolver root = plainBuild resolver root := by
  cases hroot : resolver.declaration? root with
  | none => rw [build, buildWithin_of_none hroot, plainBuild, hroot]
  | some declaration =>
      rw [build, buildWithin_of_some hroot, plainBuild, hroot]
      rcases hasCallees_or_firstUnresolved hroot with
        ⟨callees, hok, hcallees⟩ | ⟨call, herror, _⟩
      · have hrun := (Invariant.start hcallees).run_eq_resume
          (fun _ => roundsOf_le_roundBound resolver) (pending_startState_le resolver hcallees)
        rw [resume_startState] at hrun
        simp only [hok, bind, Except.bind, ← hrun]
        cases run resolver.declaration? (roundBound resolver)
          (startState resolver.declaration? root callees) <;> rfl
      · simp only [herror]
        rfl

end Builder

end ShaderCalls
