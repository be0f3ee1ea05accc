import ShaderCalls.Proofs.Graph.BuilderRun
import ShaderCalls.Proofs.Graph.StoreHistory

/-!
# Every function is expanded once

The builder keeps a log of what it asks for, which bodies it walks and how often its loop goes
round.  Whatever the calls, with cycles or calls that resolve to nothing, the loop comes to an end,
no declaration is asked for twice, no body is walked twice, and every round is one that an entered
function pays for: a visit of one of its callees, or its leaving the chain.
-/

namespace ShaderCalls

namespace Builder

/-! ## The builder with a log -/

/-- What a builder has done so far. -/
structure Log where
  /-- The identities whose declarations were asked for, in order. -/
  asked : List FunctionId := []
  /-- The functions whose bodies were walked, in order. -/
  entered : List FunctionId := []
  /-- The rounds of the loop. -/
  rounds : Nat := 0

/-- A computation with a log, which stays when the computation fails. -/
abbrev Logged (α : Type) : Type :=
  ExceptT DiscoveryError (StateM Log) α

namespace Log

section Definitions

variable (declaration? : FunctionId → Option Declaration)

def ask (id : FunctionId) : Logged (Option Declaration) := do
  modify fun log => { log with asked := log.asked ++ [id] }
  pure (declaration? id)

def walk (id : FunctionId) (declaration : Declaration) : Logged (List FunctionId) := do
  modify fun log => { log with entered := log.entered ++ [id] }
  liftExcept (declaration.callees id)

def countRound : Logged Unit :=
  modify fun log => { log with rounds := log.rounds + 1 }

/-- `Builder.callees` with a log: the body of the node is walked for them. -/
def callees (store : NodeStore Declaration) (position : Nat) : Logged (List FunctionId) :=
  match store.node? position with
  | some node =>
    match node.declaration with
    | some declaration => walk node.id declaration
    | none => pure []
  | none => pure []

/-- `Builder.enter` with a log. -/
def enter (state : State) (position : Nat) : Logged State := do
  let queue ← callees state.store position
  pure { state with
    stack := ⟨position, queue⟩ :: state.stack
    active := position :: state.active }

/-- `Builder.step` with a log. -/
def step (state : State) : Logged (Option State) :=
  match state.stack with
  | [] => pure none
  | ⟨current, []⟩ :: outer => do
    countRound
    pure (some { state with
      stack := outer
      active := state.active.filter (· != current)
      expanded := current :: state.expanded })
  | ⟨current, callee :: queue⟩ :: outer => do
    countRound
    match activeCycle state callee with
    | some cycle => throw (.cyclicCall cycle)
    | none =>
      let (store, child) ← state.store.getOrCreateM callee (ask declaration?)
      let state := { state with store, stack := ⟨current, queue⟩ :: outer }
      if (store.node? child).any (·.isResolved) then
        let state := { state with store := store.link current child }
        if child ∈ state.expanded then pure (some state)
        else do
          let state ← enter state child
          pure (some state)
      else pure (some state)

/-- `Builder.run` with a log. -/
def run : Nat → State → Logged State
  | 0, state => pure state
  | rounds + 1, state => do
    match ← step declaration? state with
    | some state => run rounds state
    | none => pure state

/-- `Builder.buildWithin` with a log. -/
def buildWithin (rounds : Nat) (root : FunctionId) : Logged (CallGraph Declaration) := do
  let (store, position) ← NodeStore.empty.getOrCreateM root (ask declaration?)
  if (store.node? position).any (·.isResolved) then
    let state ← enter ⟨store, [], [], []⟩ position
    let state ← run declaration? rounds state
    pure ⟨state.store, position⟩
  else throw (.rootResolution root)

end Definitions

/-! ## What a round adds to the log -/

variable {declaration? : FunctionId → Option Declaration} {α β : Type}

/-- A failed computation keeps the log that it has written. -/
theorem run_bind (first : Logged α) (next : α → Logged β) (log : Log) :
    (first >>= next).run.run log =
      match first.run.run log with
      | (.ok value, later) => (next value).run.run later
      | (.error error, later) => (.error error, later) := by
  rw [ExceptT.run_bind, StateT.run_bind]
  change StateT.run _ (first.run.run log).2 = _
  rcases first.run.run log with ⟨_ | _, later⟩ <;> rfl

/-- The log after the declaration of an identity was asked for, if it has no node yet. -/
def asking (store : NodeStore Declaration) (id : FunctionId) (log : Log) : Log :=
  { log with asked := if store.lookup? id = none then log.asked ++ [id] else log.asked }

theorem run_getOrCreateM_ask (store : NodeStore Declaration) (id : FunctionId) (log : Log) :
    (store.getOrCreateM id (ask declaration?)).run.run log =
      (.ok (store.getOrCreate id declaration?), asking store id log) := by
  unfold NodeStore.getOrCreateM NodeStore.getOrCreate asking
  cases store.lookup? id <;> rfl

/-- The log after a node was entered. -/
def walking (store : NodeStore Declaration) (position : Nat) (log : Log) : Log :=
  { log with entered := log.entered ++
      ((store.node? position).bind fun node => node.declaration.map fun _ => node.id).toList }

theorem run_callees (store : NodeStore Declaration) (position : Nat) (log : Log) :
    (callees store position).run.run log =
      (Builder.callees store position, walking store position log) := by
  unfold callees Builder.callees walking
  cases store.node? position with
  | none =>
      rw [Option.bind_none, Option.toList_none, List.append_nil]
      rfl
  | some node =>
      dsimp only [Option.bind_some]
      cases node.declaration with
      | none =>
          rw [Option.map_none, Option.toList_none, List.append_nil]
          rfl
      | some declaration =>
          simp only [walk, run_bind]
          cases declaration.callees node.id <;> rfl

theorem run_enter (state : State) (position : Nat) (log : Log) :
    (enter state position).run.run log =
      (Builder.enter state position, walking state.store position log) := by
  rw [enter, run_bind, run_callees, Builder.enter]
  cases Builder.callees state.store position <;> rfl

/-- The log after a round. -/
def after (declaration? : FunctionId → Option Declaration) (state : State) (log : Log) : Log :=
  match state.stack with
  | [] => log
  | ⟨_, []⟩ :: _ => { log with rounds := log.rounds + 1 }
  | ⟨current, callee :: _⟩ :: _ =>
    let begun : Log := { log with rounds := log.rounds + 1 }
    match activeCycle state callee with
    | some _ => begun
    | none =>
      let (store, child) := state.store.getOrCreate callee declaration?
      if (store.node? child).any (·.isResolved) && child ∉ state.expanded then
        walking (store.link current child) child (asking state.store callee begun)
      else asking state.store callee begun

/-- The log takes no part in a round, and `after` is what the round makes of it. -/
theorem run_step (state : State) (log : Log) :
    (step declaration? state).run.run log =
      (Builder.step declaration? state, after declaration? state log) := by
  cases hstack : state.stack with
  | nil =>
      simp only [step, Builder.step, after, hstack]
      rfl
  | cons frame outer =>
      obtain ⟨current, queue⟩ := frame
      cases queue with
      | nil =>
          simp only [step, Builder.step, after, hstack]
          rfl
      | cons callee queue =>
          cases hcycle : activeCycle state callee with
          | some cycle =>
              simp only [step, Builder.step, after, hstack, hcycle]
              rfl
          | none =>
              simp only [step, Builder.step, after, hstack, hcycle]
              rw [run_bind]
              change StateT.run (ExceptT.run _) { log with rounds := log.rounds + 1 } = _
              rw [run_bind, run_getOrCreateM_ask]
              dsimp only
              generalize state.store.getOrCreate callee declaration? = created
              by_cases hresolved : (created.1.node? created.2).any (·.isResolved)
              · by_cases hexpanded : created.2 ∈ state.expanded
                · simp only [hresolved, hexpanded, not_true_eq_false, decide_false, Bool.and_false,
                    Bool.false_eq_true, if_true, if_false]
                  rfl
                · simp only [hresolved, hexpanded, not_false_eq_true, decide_true, Bool.and_true,
                    if_true, if_false, run_bind, run_enter]
                  cases Builder.enter _ _ <;> rfl
              · simp only [hresolved, Bool.false_and, Bool.false_eq_true, if_false]
                rfl

/-- The log keeps naming the nodes of the store. -/
theorem asked_asking (store : NodeStore Declaration) (id : FunctionId) {log : Log}
    (hlog : log.asked = store.nodes.map (·.id)) :
    (asking store id log).asked = (store.getOrCreate id declaration?).1.nodes.map (·.id) := by
  cases hlookup : store.lookup? id with
  | some position => simp [asking, NodeStore.getOrCreate_of_lookup? hlookup, hlookup, hlog]
  | none => simp [asking, NodeStore.getOrCreate_of_none hlookup, hlookup, hlog]

theorem walking_eq {store : NodeStore Declaration} (hcaches : store.Caches declaration?)
    {position : Nat} {id : FunctionId} (hposition : store.idAt? position = some id)
    (hdeclared : Declared declaration? id) (log : Log) :
    walking store position log = { log with entered := log.entered ++ [id] } := by
  obtain ⟨node, hnode, rfl⟩ := NodeStore.idAt?_eq_some_iff.mp hposition
  obtain ⟨declaration, hdeclaration⟩ := Option.isSome_iff_exists.mp hdeclared
  simp [walking, hnode, hcaches position node hnode, hdeclaration]

variable {root : FunctionId} {state : State} {chain finished : List FunctionId} {log : Log}

theorem after_leave {current : Nat} {stack : List Frame}
    (hstack : state.stack = ⟨current, []⟩ :: stack) :
    after declaration? state log = { log with rounds := log.rounds + 1 } := by
  simp only [after, hstack]

theorem after_cycle {current : Nat} {queue : List FunctionId} {stack : List Frame}
    {callee : FunctionId} {cycle : List FunctionId}
    (hstack : state.stack = ⟨current, callee :: queue⟩ :: stack)
    (hcycle : activeCycle state callee = some cycle) :
    after declaration? state log = { log with rounds := log.rounds + 1 } := by
  simp only [after, hstack, hcycle]

/-- A visit of a callee that is intrinsic or finished asks for it unless it has a node. -/
theorem after_known (hstate : Invariant declaration? root state chain finished) {current : Nat}
    {queue : List FunctionId} {stack : List Frame} {callee : FunctionId}
    (hstack : state.stack = ⟨current, callee :: queue⟩ :: stack) (hchain : callee ∉ chain)
    (hknown : declaration? callee = none ∨ callee ∈ finished) :
    after declaration? state log =
      { asking state.store callee log with rounds := log.rounds + 1 } := by
  have hcreated : (state.store.getOrCreate callee declaration?).1.Caches declaration? :=
    hstate.caches.getOrCreate
  have hresolved := hcreated.any_isResolved hstate.wellFormed.idAt?_getOrCreate_self
  have hchild := hstate.mem_expanded_getOrCreate callee
  have hwalks : ¬((declaration? callee).isSome ∧ callee ∉ finished) := by
    rcases hknown with hnone | hfinished
    · simp [hnone]
    · simp [hfinished]
  simp only [after, hstack, hstate.activeCycle_of_notMem hchain, hresolved, hchild]
  rw [if_neg (by simpa using hwalks)]
  rfl

/-- A visit of any other callee off the chain also walks its body. -/
theorem after_walked (hstate : Invariant declaration? root state chain finished) {current : Nat}
    {queue : List FunctionId} {stack : List Frame} {callee : FunctionId}
    (hstack : state.stack = ⟨current, callee :: queue⟩ :: stack) (hchain : callee ∉ chain)
    (hdeclared : Declared declaration? callee) (hfinished : callee ∉ finished) :
    after declaration? state log =
      { asking state.store callee log with
        entered := log.entered ++ [callee]
        rounds := log.rounds + 1 } := by
  have hcreated : (state.store.getOrCreate callee declaration?).1.Caches declaration? :=
    hstate.caches.getOrCreate
  have hresolved := hcreated.any_isResolved hstate.wellFormed.idAt?_getOrCreate_self
  have hchild := hstate.mem_expanded_getOrCreate callee
  have hcaches : (recordCall declaration? state.store current callee).Caches declaration? :=
    hcreated.link
  simp only [after, hstack, hstate.activeCycle_of_notMem hchain, hresolved, hchild]
  rw [if_pos (by simpa [hfinished, Declared] using hdeclared)]
  exact walking_eq hcaches (idAt?_recordCall hstate.wellFormed current callee) hdeclared _

/-! ## The accounts of a run -/

/-- What the log says of a state at the head of the loop: what was asked for has a node, what was
entered is on the chain or finished, and the rounds are those that it has paid for so far. -/
structure Accounts (declaration? : FunctionId → Option Declaration) (state : State)
    (chain finished : List FunctionId) (log : Log) : Prop where
  asked_eq : log.asked = state.store.nodes.map (·.id)
  entered : log.entered.Perm (chain ++ finished)
  rounds_add : log.rounds + pending state.stack = roundsOf declaration? (chain ++ finished)

/-- Nothing is asked for or entered twice, only declared functions are entered, and they pay for the
rounds: each for one of its own and for one with every callee that it queues. -/
structure OnlyOnce (declaration? : FunctionId → Option Declaration) (log : Log) : Prop where
  nodup_asked : log.asked.Nodup
  nodup_entered : log.entered.Nodup
  declared : ∀ id ∈ log.entered, Declared declaration? id
  rounds_le : log.rounds ≤ log.entered.length + (log.entered.map (calleeCount declaration?)).sum

theorem roundsOf_eq (ids : List FunctionId) :
    roundsOf declaration? ids = ids.length + (ids.map (calleeCount declaration?)).sum := by
  induction ids with
  | nil => rfl
  | cons id ids ih =>
      simp only [roundsOf, List.map_cons, List.sum_cons, List.length_cons] at ih ⊢
      omega

theorem OnlyOnce.of_perm {store : NodeStore Declaration} {ids : List FunctionId}
    (hstore : store.WellFormed) (hasked : log.asked = store.nodes.map (·.id))
    (hentered : log.entered.Perm ids) (hnodup : ids.Nodup)
    (hdeclared : ∀ id ∈ ids, Declared declaration? id)
    (hrounds : log.rounds ≤ roundsOf declaration? ids) : log.OnlyOnce declaration? where
  nodup_asked := hasked ▸ hstore.distinct
  nodup_entered := hentered.nodup_iff.mpr hnodup
  declared id hmem := hdeclared id (hentered.mem_iff.mp hmem)
  rounds_le :=
    calc
      log.rounds ≤ roundsOf declaration? ids := hrounds
      _ = roundsOf declaration? log.entered := (hentered.map _).sum_eq.symm
      _ = log.entered.length + (log.entered.map (calleeCount declaration?)).sum := roundsOf_eq _

section

variable (hstate : Invariant declaration? root state chain finished)
  (hlog : Accounts declaration? state chain finished log)

include hstate hlog

theorem Accounts.onlyOnce : log.OnlyOnce declaration? :=
  .of_perm hstate.wellFormed hlog.asked_eq hlog.entered hstate.nodup hstate.declared
    (Nat.le.intro hlog.rounds_add)

/-- A round that leads to another state keeps the accounts, and is counted. -/
theorem Accounts.next {later : State} (hstep : Builder.step declaration? state = .ok (some later)) :
    ∃ laterChain laterFinished,
      Invariant declaration? root later laterChain laterFinished ∧
      Accounts declaration? later laterChain laterFinished (after declaration? state log) ∧
      (after declaration? state log).rounds = log.rounds + 1 := by
  have hrounds := hlog.rounds_add
  have houtcome := hstate.outcome
  rw [hstep] at houtcome
  cases houtcome with
  | leave hstack hchain =>
      subst hchain
      refine ⟨_, _, hstate.leave hstack, ?_⟩
      rw [after_leave hstack]
      refine ⟨⟨hlog.asked_eq, hlog.entered.trans List.perm_middle.symm, ?_⟩, rfl⟩
      simp only [hstack, pending, roundsOf, List.map_cons, List.map_append, List.sum_cons,
        List.sum_append, List.length_nil] at hrounds ⊢
      omega
  | intrinsic hstack hchain hdeclared =>
      refine ⟨_, _, hstate.intrinsic hstack hdeclared, ?_⟩
      rw [after_known hstate hstack hchain (.inl hdeclared)]
      refine ⟨⟨asked_asking _ _ hlog.asked_eq, hlog.entered, ?_⟩, rfl⟩
      simp only [hstack, pending, List.map_cons, List.sum_cons, List.length_cons] at hrounds ⊢
      omega
  | known hstack hchain hdeclared hfinished =>
      refine ⟨_, _, hstate.known hstack hdeclared hfinished, ?_⟩
      rw [after_known hstate hstack hchain (.inr hfinished)]
      refine ⟨⟨?_, hlog.entered, ?_⟩, rfl⟩
      · exact (asked_asking _ _ hlog.asked_eq).trans NodeStore.map_id_link.symm
      · simp only [hstack, pending, List.map_cons, List.sum_cons, List.length_cons] at hrounds ⊢
        omega
  | enter hstack hchain hfinished hcallees =>
      refine ⟨_, _, hstate.enter hstack hchain hfinished hcallees, ?_⟩
      rw [after_walked hstate hstack hchain hcallees.declared hfinished]
      refine ⟨⟨?_, ?_, ?_⟩, rfl⟩
      · exact (asked_asking _ _ hlog.asked_eq).trans NodeStore.map_id_link.symm
      · exact (List.perm_append_singleton _ _).trans (hlog.entered.cons _)
      · simp only [hstack, pending, roundsOf, List.map_cons, List.sum_cons, List.length_cons,
          List.cons_append, calleeCount_eq hcallees] at hrounds ⊢
        omega

/-- A round that fails, at a cycle or in a body with a call that does not resolve, is paid for as
well. -/
theorem Accounts.failed {error : DiscoveryError}
    (hstep : Builder.step declaration? state = .error error) :
    (after declaration? state log).OnlyOnce declaration? ∧
      (after declaration? state log).rounds = log.rounds + 1 := by
  have hrounds := hlog.rounds_add
  have houtcome := hstate.outcome
  rw [hstep] at houtcome
  cases houtcome with
  | @cycle current queue stack callee inside outside hstack hchain =>
      rw [after_cycle hstack (hstate.activeCycle_of_split hchain)]
      refine ⟨.of_perm hstate.wellFormed hlog.asked_eq hlog.entered hstate.nodup hstate.declared ?_,
        rfl⟩
      simp only [hstack, pending, List.map_cons, List.sum_cons, List.length_cons] at hrounds ⊢
      omega
  | @unresolved current queue stack callee declaration call hstack hchain hfinished hdeclaration =>
      have hdeclared : Declared declaration? callee := declared_of_eq_some hdeclaration
      have hfresh : callee ∉ chain ++ finished := by simp [hchain, hfinished]
      have hstore : (state.store.getOrCreate callee declaration?).1.WellFormed :=
        hstate.wellFormed.getOrCreate
      have hentered : (log.entered ++ [callee]).Perm (callee :: (chain ++ finished)) :=
        (List.perm_append_singleton _ _).trans (hlog.entered.cons _)
      rw [after_walked hstate hstack hchain hdeclared hfinished]
      refine ⟨.of_perm hstore (asked_asking _ _ hlog.asked_eq) hentered
        (List.nodup_cons.mpr ⟨hfresh, hstate.nodup⟩)
        (List.forall_mem_cons.mpr ⟨hdeclared, hstate.declared⟩) ?_, rfl⟩
      simp only [hstack, pending, List.map_cons, List.sum_cons, List.length_cons] at hrounds
      simp only [roundsOf, List.map_cons, List.sum_cons] at hrounds ⊢
      omega

end

/-! ## Runs with a log -/

theorem run_run_succ (rounds : Nat) (state : State) (log : Log) :
    (run declaration? (rounds + 1) state).run.run log =
      match Builder.step declaration? state with
      | .ok (some later) =>
        (run declaration? rounds later).run.run (after declaration? state log)
      | .ok none => (.ok state, after declaration? state log)
      | .error error => (.error error, after declaration? state log) := by
  rw [run, run_bind, run_step]
  rcases Builder.step declaration? state with error | _ | later <;> rfl

/-- The log has no part in the result of a run. -/
theorem run_run_fst (rounds : Nat) (state : State) (log : Log) :
    ((run declaration? rounds state).run.run log).1 = Builder.run declaration? rounds state := by
  induction rounds generalizing state log with
  | zero => rfl
  | succ rounds ih =>
      rw [run_run_succ, Builder.run]
      rcases Builder.step declaration? state with error | _ | later
      · rfl
      · rfl
      · exact ih later _

/-- A run with an empty chain is over. -/
theorem run_run_of_step_none (hstate : Invariant declaration? root state chain finished)
    (hstep : Builder.step declaration? state = .ok none) (rounds : Nat) (log : Log) :
    (run declaration? rounds state).run.run log = (.ok state, log) := by
  have houtcome := hstate.outcome
  rw [hstep] at houtcome
  cases houtcome with
  | stop hstack hchain =>
      cases rounds with
      | zero => rfl
      | succ rounds => simp only [run_run_succ, hstep, after, hstack]

/-- A run comes to an end: from some number of rounds on, more of them change neither the result nor
the log, which has counted just those. -/
theorem Accounts.run_ends {bound : Nat}
    (hstate : Invariant declaration? root state chain finished)
    (hlog : Accounts declaration? state chain finished log)
    (hbound : ∀ ids, ids.Nodup → (∀ id ∈ ids, Declared declaration? id) →
      roundsOf declaration? ids ≤ bound) :
    ∃ needed result last, last.rounds = log.rounds + needed ∧ last.OnlyOnce declaration? ∧
      ∀ spare, (run declaration? (needed + spare) state).run.run log = (result, last) := by
  -- The rounds that the log has not counted yet bound the rest of the run.
  generalize hleft : bound - log.rounds = left
  induction left using Nat.strong_induction_on generalizing state chain finished log with
  | _ left ih =>
      cases hstep : Builder.step declaration? state with
      | error error =>
          obtain ⟨honce, hcounted⟩ := hlog.failed hstate hstep
          refine ⟨1, .error error, _, hcounted, honce, fun spare => ?_⟩
          rw [Nat.add_comm, run_run_succ, hstep]
      | ok next =>
          cases next with
          | none =>
              refine ⟨0, .ok state, _, rfl, hlog.onlyOnce hstate, fun spare => ?_⟩
              exact run_run_of_step_none hstate hstep _ _
          | some later =>
              obtain ⟨laterChain, laterFinished, hlater, hkept, hcounted⟩ :=
                hlog.next hstate hstep
              have hpaid := hkept.rounds_add
              have hmost := hbound _ hlater.nodup hlater.declared
              obtain ⟨needed, result, last, hrounds, honce, hrun⟩ :=
                ih _ (by omega) hlater hkept rfl
              refine ⟨needed + 1, result, last, by omega, honce, fun spare => ?_⟩
              rw [Nat.succ_add, run_run_succ, hstep]
              exact hrun spare

/-! ## Building with a log -/

/-- The log when the root has been entered. -/
def begun (root : FunctionId) : Log where
  asked := [root]
  entered := [root]

theorem run_buildWithin_of_none (hroot : declaration? root = none) (rounds : Nat) :
    (buildWithin declaration? rounds root).run.run {} =
      (.error (.rootResolution root), { asked := [root] }) := by
  rw [buildWithin, run_bind, run_getOrCreateM_ask]
  simp only [any_isResolved_root, hroot]
  rfl

theorem run_buildWithin_of_some {declaration : Declaration}
    (hroot : declaration? root = some declaration) (rounds : Nat) :
    (buildWithin declaration? rounds root).run.run {} =
      match declaration.callees root with
      | .ok callees =>
        let ran := (run declaration? rounds (startState declaration? root callees)).run.run
          (begun root)
        (ran.1.map fun last => ⟨last.store, (NodeStore.empty.getOrCreate root declaration?).2⟩,
          ran.2)
      | .error error => (.error error, begun root) := by
  have hwalking : walking (NodeStore.empty.getOrCreate root declaration?).1
      (NodeStore.empty.getOrCreate root declaration?).2 (asking .empty root {}) = begun root :=
    walking_eq (NodeStore.caches_empty declaration?).getOrCreate
      NodeStore.wellFormed_empty.idAt?_getOrCreate_self (declared_of_eq_some hroot) _
  rw [buildWithin, run_bind, run_getOrCreateM_ask]
  simp only [any_isResolved_root, hroot, Option.isSome_some, if_true, run_bind, run_enter,
    enter_root hroot, hwalking]
  cases declaration.callees root with
  | error error => rfl
  | ok callees =>
      simp only [Except.map]
      rcases (run declaration? rounds (startState declaration? root callees)).run.run (begun root)
        with ⟨_ | _, last⟩ <;> rfl

/-- The log has no part in the graph. -/
theorem run_buildWithin_fst (rounds : Nat) (root : FunctionId) :
    ((buildWithin declaration? rounds root).run.run {}).1 =
      Builder.buildWithin declaration? rounds root := by
  cases hroot : declaration? root with
  | none => rw [run_buildWithin_of_none hroot, buildWithin_of_none hroot]
  | some declaration =>
      rw [run_buildWithin_of_some hroot, buildWithin_of_some hroot]
      cases declaration.callees root with
      | error error => rfl
      | ok callees => simp only [run_run_fst, Except.bind]

theorem Accounts.start {callees : List FunctionId}
    (hcallees : HasCallees declaration? root callees) :
    Accounts declaration? (startState declaration? root callees) [root] [] (begun root) where
  asked_eq := rfl
  entered := .refl _
  rounds_add := by simp [begun, startState, pending, roundsOf, calleeCount_eq hcallees]

/-- Building comes to an end, with one result and one log from some number of rounds on. -/
theorem buildWithin_ends (root : FunctionId) {bound : Nat}
    (hbound : ∀ ids, ids.Nodup → (∀ id ∈ ids, Declared declaration? id) →
      roundsOf declaration? ids ≤ bound) :
    ∃ result last, last.OnlyOnce declaration? ∧ ∀ spare,
      (buildWithin declaration? (last.rounds + spare) root).run.run {} = (result, last) := by
  cases hroot : declaration? root with
  | none =>
      refine ⟨.error (.rootResolution root), { asked := [root] },
        ⟨by simp, by simp, by simp, by simp⟩, fun spare => ?_⟩
      exact run_buildWithin_of_none hroot _
  | some declaration =>
      rcases hasCallees_or_firstUnresolved hroot with
        ⟨callees, hok, hcallees⟩ | ⟨call, herror, _⟩
      · obtain ⟨needed, result, last, hrounds, honce, hrun⟩ :=
          (Accounts.start hcallees).run_ends (.start hcallees) hbound
        have hneeded : last.rounds = needed := hrounds.trans (Nat.zero_add needed)
        refine ⟨result.map fun last =>
          ⟨last.store, (NodeStore.empty.getOrCreate root declaration?).2⟩, last, honce,
          fun spare => ?_⟩
        rw [run_buildWithin_of_some hroot, hok]
        simp only [hneeded, hrun spare]
      · have hdeclared : Declared declaration? root := declared_of_eq_some hroot
        refine ⟨.error (.unresolvedCall root call.text), begun root,
          ⟨by simp [begun], by simp [begun], by simpa [begun], Nat.zero_le _⟩, fun spare => ?_⟩
        rw [run_buildWithin_of_some hroot, herror]

end Log

/-- Whatever is called, a build comes to an end: it gives the same graph and the same log as soon as
it may take the rounds that the log has counted.  Up to there nothing was asked for or entered
twice, and there was no round that the entered functions and their callees do not account for. -/
theorem build_expands_once (resolver : Resolver) (root : FunctionId) :
    ∃ log : Log, log.OnlyOnce resolver.declaration? ∧ ∀ spare,
      (Log.buildWithin resolver.declaration? (log.rounds + spare) root).run.run {} =
        (build resolver root, log) := by
  obtain ⟨result, log, honce, hends⟩ :=
    Log.buildWithin_ends root fun _ => roundsOf_le_roundBound resolver
  -- The rounds that the log has counted and as many as the resolver's bound are enough for both.
  have hresult : result = build resolver root :=
    calc
      result = ((Log.buildWithin resolver.declaration? (log.rounds + roundBound resolver)
          root).run.run {}).1 := by rw [hends]
      _ = Builder.buildWithin resolver.declaration? (log.rounds + roundBound resolver) root :=
        Log.run_buildWithin_fst _ root
      _ = build resolver root := buildWithin_eq_build (Nat.le_add_left _ _)
  exact ⟨log, honce, hresult ▸ hends⟩

/-- A callee that two functions share, where one of them calls it twice, is entered once and queued
once by each. -/
example :
    let main : FunctionId := ⟨"app", "main"⟩
    let left : FunctionId := ⟨"app", "left"⟩
    let shared : FunctionId := ⟨"app", "shared"⟩
    let resolver := Resolver.ofList [(main, .calling [left, ⟨"std", "sin"⟩, shared]),
      (left, .calling [shared, shared]), (shared, .calling [])]
    let log := ((Log.buildWithin resolver.declaration? 100 main).run.run {}).2
    log.asked = [main, left, shared, ⟨"std", "sin"⟩] ∧ log.entered = [main, left, shared] ∧
      log.rounds = 3 + (3 + 1 + 0) := by
  decide +kernel

end Builder

end ShaderCalls
