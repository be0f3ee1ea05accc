import ShaderCalls.Proofs.Graph.BuilderInvariant
import ShaderCalls.Proofs.Lists

/-!
# Runs of the graph builder

Every entered function pays for its own rounds: one for each of its callees and one for leaving the
chain.  The rounds that are still to come for the functions on the chain are pending.  So a run has
emptied the chain, or failed, when it has taken as many rounds as the declared functions can pay
for in total.  A run that fails stops in a state with the invariant, whose next round is the error.
-/

namespace ShaderCalls

namespace Builder

variable {declaration? : FunctionId → Option Declaration} {root : FunctionId} {state : State}
variable {chain finished : List FunctionId}

/-- The number of callees of a function; none if its calls do not all resolve. -/
def calleeCount (declaration? : FunctionId → Option Declaration) (id : FunctionId) : Nat :=
  match declaration? id with
  | some declaration =>
    match declaration.callees id with
    | .ok callees => callees.length
    | .error _ => 0
  | none => 0

/-- The rounds that functions take in total: each visits its callees and leaves the chain. -/
def roundsOf (declaration? : FunctionId → Option Declaration) (ids : List FunctionId) : Nat :=
  (ids.map fun id => calleeCount declaration? id + 1).sum

/-- The rounds that the frames of a stack still take. -/
def pending (stack : List Frame) : Nat :=
  (stack.map fun frame => frame.queue.length + 1).sum

theorem calleeCount_eq {id : FunctionId} {callees : List FunctionId}
    (hcallees : HasCallees declaration? id callees) :
    calleeCount declaration? id = callees.length := by
  obtain ⟨declaration, hdeclaration, hok⟩ := hcallees
  simp [calleeCount, hdeclaration, hok]

theorem calleeCount_le {id : FunctionId} {declaration : Declaration}
    (hdeclaration : declaration? id = some declaration) :
    calleeCount declaration? id ≤ declaration.calls.length := by
  simp only [calleeCount, hdeclaration]
  split
  · next callees hok => simpa using Call.length_calleesAfter_le hok
  · exact Nat.zero_le _

/-- A round leads to a state with the invariant.  What is pending and what has been paid for differ
by exactly the one round that was taken. -/
theorem Invariant.next (hstate : Invariant declaration? root state chain finished)
    {later : State} (hstep : step declaration? state = .ok (some later)) :
    ∃ laterChain laterFinished,
      Invariant declaration? root later laterChain laterFinished ∧
      pending later.stack + 1 + roundsOf declaration? (chain ++ finished) =
        pending state.stack + roundsOf declaration? (laterChain ++ laterFinished) := by
  have houtcome := hstate.outcome
  rw [hstep] at houtcome
  cases houtcome with
  | leave hstack hchain =>
      subst hchain
      refine ⟨_, _, hstate.leave hstack, ?_⟩
      simp only [hstack, pending, roundsOf, List.map_cons, List.map_append, List.sum_cons,
        List.sum_append, List.length_nil]
      omega
  | intrinsic hstack hchain hdeclared =>
      refine ⟨_, _, hstate.intrinsic hstack hdeclared, ?_⟩
      simp only [hstack, pending, List.map_cons, List.sum_cons, List.length_cons]
      omega
  | known hstack hchain hdeclared hfinished =>
      refine ⟨_, _, hstate.known hstack hdeclared hfinished, ?_⟩
      simp only [hstack, pending, List.map_cons, List.sum_cons, List.length_cons]
      omega
  | enter hstack hchain hfinished hcallees =>
      refine ⟨_, _, hstate.enter hstack hchain hfinished hcallees, ?_⟩
      simp only [hstack, pending, roundsOf, List.map_cons, List.sum_cons, List.length_cons,
        List.cons_append, calleeCount_eq hcallees]
      omega

theorem Settled.declared {store : NodeStore Declaration}
    (hsettled : Settled declaration? store finished) :
    ∀ id ∈ finished, Declared declaration? id := by
  induction finished with
  | nil => simp
  | cons id rest ih =>
      obtain ⟨⟨callees, hcallees, _⟩, hrest⟩ := hsettled
      exact List.forall_mem_cons.mpr ⟨hcallees.declared, ih hrest⟩

theorem Invariant.declared (hstate : Invariant declaration? root state chain finished) :
    ∀ id ∈ chain ++ finished, Declared declaration? id := by
  intro id hmem
  exact (List.mem_append.mp hmem).elim (hstate.onChain.declared id)
    (hstate.settled.declared id)

/-- Distinct declared functions take no more rounds than a resolver's bound. -/
theorem roundsOf_le_roundBound (resolver : Resolver) {ids : List FunctionId} (hnodup : ids.Nodup)
    (hdeclared : ∀ id ∈ ids, Declared resolver.declaration? id) :
    roundsOf resolver.declaration? ids ≤ roundBound resolver := by
  have hsubset : ids ⊆ resolver.declared := fun id hmem =>
    resolver.mem_declared (hdeclared id hmem)
  let bound (id : FunctionId) : Nat :=
    (((resolver.declaration? id).map (·.calls.length)).getD 0) + 1
  have hbound : ∀ id ∈ ids, calleeCount resolver.declaration? id + 1 ≤ bound id := by
    intro id hmem
    obtain ⟨declaration, hdeclaration⟩ := Option.isSome_iff_exists.mp (hdeclared id hmem)
    simpa [bound, hdeclaration] using calleeCount_le hdeclaration
  calc
    roundsOf resolver.declaration? ids ≤ (ids.map bound).sum := List.sum_le_sum hbound
    _ ≤ (resolver.declared.map bound).sum := sum_map_le_of_subset hnodup hsubset bound
    _ = roundBound resolver := rfl

/-- The chain is empty once the declared functions have paid for everything that they can. -/
theorem Invariant.eq_nil_of_paid {bound : Nat}
    (hstate : Invariant declaration? root state chain finished)
    (hbound : ∀ ids, ids.Nodup → (∀ id ∈ ids, Declared declaration? id) →
      roundsOf declaration? ids ≤ bound)
    (hpaid : pending state.stack + bound ≤ roundsOf declaration? (chain ++ finished)) :
    state.stack = [] ∧ chain = [] := by
  have hmost := hbound _ hstate.nodup hstate.declared
  have hempty : state.stack = [] := by
    cases hstack : state.stack with
    | nil => rfl
    | cons frame stack =>
        simp only [hstack, pending, List.map_cons, List.sum_cons] at hpaid
        omega
  have honChain := hempty ▸ hstate.onChain
  cases honChain
  exact ⟨hempty, rfl⟩

/-- With rounds for all that is pending and all that can still be paid, the chain runs empty. -/
theorem Invariant.run_complete {rounds bound : Nat} {last : State}
    (hstate : Invariant declaration? root state chain finished)
    (hbound : ∀ ids, ids.Nodup → (∀ id ∈ ids, Declared declaration? id) →
      roundsOf declaration? ids ≤ bound)
    (hrounds : pending state.stack + bound ≤ rounds + roundsOf declaration? (chain ++ finished))
    (hrun : run declaration? rounds state = .ok last) :
    ∃ finished, last.stack = [] ∧ Invariant declaration? root last [] finished := by
  induction rounds generalizing state chain finished with
  | zero =>
      cases hrun
      obtain ⟨hempty, rfl⟩ := hstate.eq_nil_of_paid hbound (by omega)
      exact ⟨finished, hempty, hstate⟩
  | succ rounds ih =>
      rw [run] at hrun
      have houtcome := hstate.outcome
      cases hstep : step declaration? state with
      | error error => simp [hstep, bind, Except.bind] at hrun
      | ok next =>
          cases next with
          | none =>
              simp only [hstep, bind, Except.bind, Except.ok.injEq] at hrun
              rw [hstep] at houtcome
              cases houtcome with
              | stop hstack hchain =>
                  subst hchain hrun
                  exact ⟨finished, hstack, hstate⟩
          | some later =>
              simp only [hstep, bind, Except.bind] at hrun
              obtain ⟨laterChain, laterFinished, hlater, hcount⟩ := hstate.next hstep
              exact ih hlater (by omega) hrun

/-- A run fails in a state with the invariant, by the error of its next round. -/
theorem Invariant.run_error {rounds : Nat} {error : DiscoveryError}
    (hstate : Invariant declaration? root state chain finished)
    (hrun : run declaration? rounds state = .error error) :
    ∃ last chain finished, Invariant declaration? root last chain finished ∧
      step declaration? last = .error error := by
  induction rounds generalizing state chain finished with
  | zero => cases hrun
  | succ rounds ih =>
      rw [run] at hrun
      cases hstep : step declaration? state with
      | error first =>
          simp only [hstep, bind, Except.bind, Except.error.injEq] at hrun
          exact ⟨state, chain, finished, hstate, hrun ▸ hstep⟩
      | ok next =>
          cases next with
          | none => simp [hstep, bind, Except.bind] at hrun
          | some later =>
              simp only [hstep, bind, Except.bind] at hrun
              obtain ⟨laterChain, laterFinished, hlater, _⟩ := hstate.next hstep
              exact ih hlater hrun

/-! ## Building from a root -/

theorem any_isResolved_root (declaration? : FunctionId → Option Declaration) (root : FunctionId) :
    ((NodeStore.empty.getOrCreate root declaration?).1.node?
      (NodeStore.empty.getOrCreate root declaration?).2).any (·.isResolved) =
      (declaration? root).isSome :=
  (NodeStore.caches_empty declaration?).getOrCreate.any_isResolved
    NodeStore.wellFormed_empty.idAt?_getOrCreate_self

theorem buildWithin_of_none {rounds : Nat} (hroot : declaration? root = none) :
    buildWithin declaration? rounds root = .error (.rootResolution root) := by
  simp only [buildWithin, any_isResolved_root, hroot]
  rfl

theorem enter_root {declaration : Declaration} (hroot : declaration? root = some declaration) :
    enter ⟨(NodeStore.empty.getOrCreate root declaration?).1, [], [], []⟩
      (NodeStore.empty.getOrCreate root declaration?).2 =
      (declaration.callees root).map (startState declaration? root) :=
  enter_eq (NodeStore.caches_empty declaration?).getOrCreate NodeStore.wellFormed_empty.idAt?_getOrCreate_self
    hroot

/-- Building from a declared root is a run from the state in which the root has been entered. -/
theorem buildWithin_of_some {rounds : Nat} {declaration : Declaration}
    (hroot : declaration? root = some declaration) :
    buildWithin declaration? rounds root =
      (declaration.callees root).bind fun callees =>
        (run declaration? rounds (startState declaration? root callees)).map fun last =>
          ⟨last.store, (NodeStore.empty.getOrCreate root declaration?).2⟩ := by
  simp only [buildWithin, any_isResolved_root, hroot, Option.isSome_some, if_true,
    enter_root hroot]
  cases declaration.callees root with
  | error error => rfl
  | ok callees => cases run declaration? rounds (startState declaration? root callees) <;> rfl

/-- The bound of a resolver pays for a whole run. -/
theorem pending_startState_le (resolver : Resolver) {callees : List FunctionId}
    (hcallees : HasCallees resolver.declaration? root callees) :
    pending (startState resolver.declaration? root callees).stack + roundBound resolver ≤
      roundBound resolver + roundsOf resolver.declaration? ([root] ++ []) := by
  simp only [pending, roundsOf, startState, calleeCount_eq hcallees, List.append_nil,
    List.map_cons, List.map_nil, List.sum_cons, List.sum_nil]
  omega

/-! ## Enough rounds -/

theorem run_of_step_none (hstep : step declaration? state = .ok none) (rounds : Nat) :
    run declaration? rounds state = .ok state := by
  cases rounds with
  | zero => rfl
  | succ rounds =>
      rw [run, hstep]
      rfl

theorem run_add (rounds more : Nat) :
    run declaration? (rounds + more) state =
      (run declaration? rounds state).bind (run declaration? more) := by
  induction rounds generalizing state with
  | zero =>
      rw [Nat.zero_add]
      rfl
  | succ rounds ih =>
      cases hstep : step declaration? state with
      | error error =>
          rw [Nat.succ_add, run, run, hstep]
          rfl
      | ok next =>
          cases next with
          | none =>
              rw [run_of_step_none hstep, run_of_step_none hstep]
              exact (run_of_step_none hstep more).symm
          | some later =>
              rw [Nat.succ_add, run, run, hstep]
              exact ih

/-- More rounds than the bound of a resolver build the same graph. -/
theorem buildWithin_eq_build {resolver : Resolver} {rounds : Nat}
    (hrounds : roundBound resolver ≤ rounds) :
    buildWithin resolver.declaration? rounds root = build resolver root := by
  obtain ⟨more, rfl⟩ := Nat.exists_eq_add_of_le hrounds
  rw [build]
  cases hroot : resolver.declaration? root with
  | none => rw [buildWithin_of_none hroot, buildWithin_of_none hroot]
  | some declaration =>
      rw [buildWithin_of_some hroot, buildWithin_of_some hroot]
      rcases hasCallees_or_firstUnresolved hroot with
        ⟨callees, hok, hcallees⟩ | ⟨call, herror, _⟩
      · simp only [hok, Except.bind, run_add]
        cases hrun : run resolver.declaration? (roundBound resolver)
            (startState resolver.declaration? root callees) with
        | error error => rfl
        | ok last =>
            obtain ⟨_, hempty, _⟩ := (Invariant.start hcallees).run_complete
              (fun _ => roundsOf_le_roundBound resolver) (pending_startState_le resolver hcallees)
              hrun
            have hstep : step resolver.declaration? last = .ok none := by
              rw [step, hempty]
            simp only [run_of_step_none hstep]
      · simp only [herror, Except.bind]

end Builder

end ShaderCalls
