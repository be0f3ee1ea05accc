import ShaderCalls.Discovery.Session
import ShaderCalls.Proofs.Graph.BuilderRun

/-!
# Discovery asks about nothing but what is reachable

The builder asks for the declaration of the root and of functions that a reached body calls, and the
walk over its graph asks for none.  So two resolvers that say the same about these functions lead
the builder through the same states, and they give the same program or the same error.  Their bounds
on the rounds may differ, but both pay for a whole run.
-/

namespace ShaderCalls

/-- Two sources of declarations say the same about a root and everything that calls lead to from it
by the first source, intrinsics included. -/
def AgreeBelow (declaration? other : FunctionId → Option Declaration) (root : FunctionId) : Prop :=
  ∀ id, Relation.ReflTransGen (Calls declaration?) root id → other id = declaration? id

variable {declaration? other : FunctionId → Option Declaration} {root : FunctionId}

theorem AgreeBelow.of_callee (hagree : AgreeBelow declaration? other root)
    {caller callee : FunctionId} (hreaches : Reaches declaration? root caller)
    (hcalls : Calls declaration? caller callee) : other callee = declaration? callee := by
  apply hagree
  have hpath : Relation.ReflTransGen (Calls declaration?) root caller :=
    Relation.ReflTransGen.mono (fun _ _ hcall => hcall.1) _ _ hreaches
  exact hpath.tail hcalls

/-- It is enough to agree on a list that holds the root and that no call leaves. -/
theorem AgreeBelow.of_closed (ids : List FunctionId) (hroot : root ∈ ids)
    (hclosed : ∀ id ∈ ids, ∀ declaration ∈ declaration? id,
      ∀ call ∈ declaration.calls, ∀ callee ∈ call.callee, callee ∈ ids)
    (hsame : ∀ id ∈ ids, other id = declaration? id) : AgreeBelow declaration? other root := by
  intro id hid
  apply hsame
  induction hid with
  | refl => exact hroot
  | tail _ hcalls ih =>
      obtain ⟨declaration, hdeclaration, call, hcall, hcallee⟩ := hcalls
      exact hclosed _ ih declaration hdeclaration call hcall _ hcallee

theorem NodeStore.getOrCreate_congr (store : NodeStore Declaration) {id : FunctionId}
    (hid : other id = declaration? id) :
    store.getOrCreate id other = store.getOrCreate id declaration? := by
  rw [getOrCreate, getOrCreate, hid]

namespace Builder

variable {state : State} {chain finished : List FunctionId}

/-! ## The same states -/

/-- A round asks for the declaration of the next callee and for no other. -/
theorem step_congr (hnext : ∀ current callee queue stack,
    state.stack = ⟨current, callee :: queue⟩ :: stack → other callee = declaration? callee) :
    step other state = step declaration? state := by
  cases hstack : state.stack with
  | nil => simp only [step, hstack]
  | cons frame stack =>
      obtain ⟨current, queue⟩ := frame
      cases queue with
      | nil => simp only [step, hstack]
      | cons callee queue =>
          have hcallee := hnext current callee queue stack hstack
          simp only [step, hstack, state.store.getOrCreate_congr hcallee]

theorem Invariant.run_congr (hstate : Invariant declaration? root state chain finished)
    (hagree : AgreeBelow declaration? other root) (rounds : Nat) :
    run other rounds state = run declaration? rounds state := by
  induction rounds generalizing state chain finished with
  | zero => rfl
  | succ rounds ih =>
      have hstep : step other state = step declaration? state := by
        apply step_congr
        intro current callee queue stack hstack
        obtain ⟨id, outside, rfl, _, hcalls⟩ := hstate.exists_head hstack
        exact hagree.of_callee (hstate.reached id (by simp)) (hcalls callee List.mem_cons_self)
      rw [run, run, hstep]
      cases hnext : step declaration? state with
      | error error => rfl
      | ok next =>
          cases next with
          | none => rfl
          | some later =>
              obtain ⟨_, _, hlater, _⟩ := hstate.next hnext
              exact ih hlater

theorem buildWithin_congr (hagree : AgreeBelow declaration? other root) (rounds : Nat) :
    buildWithin other rounds root = buildWithin declaration? rounds root := by
  have hroot : other root = declaration? root := hagree root .refl
  cases hdeclaration : declaration? root with
  | none => rw [buildWithin_of_none hdeclaration, buildWithin_of_none (hroot.trans hdeclaration)]
  | some declaration =>
      rw [buildWithin_of_some hdeclaration, buildWithin_of_some (hroot.trans hdeclaration)]
      have hstart : ∀ callees,
          startState other root callees = startState declaration? root callees := by
        intro callees
        rw [startState, startState, NodeStore.getOrCreate_congr _ hroot]
      rcases hasCallees_or_firstUnresolved hdeclaration with
        ⟨callees, hok, hcallees⟩ | ⟨call, herror, _⟩
      · simp only [hok, Except.bind, hstart, (Invariant.start hcallees).run_congr hagree,
          NodeStore.getOrCreate_congr _ hroot]
      · simp only [herror, Except.bind]

/-! ## The whole graph -/

/-- Resolvers that agree below a root build the same graph, or fail with the same error. -/
theorem build_congr {left right : Resolver}
    (hagree : AgreeBelow left.declaration? right.declaration? root) :
    build right root = build left root := by
  have hleft : roundBound left ≤ roundBound left + roundBound right := Nat.le_add_right _ _
  have hright : roundBound right ≤ roundBound left + roundBound right := Nat.le_add_left _ _
  calc
    build right root =
        buildWithin right.declaration? (roundBound left + roundBound right) root :=
      (buildWithin_eq_build hright).symm
    _ = buildWithin left.declaration? (roundBound left + roundBound right) root :=
      buildWithin_congr hagree _
    _ = build left root := buildWithin_eq_build hleft

end Builder

theorem discover_congr {left right : Resolver} (markers : Markers)
    (hbuild : Builder.build right root = Builder.build left root) :
    discover right markers root = discover left markers root := by
  rw [discover, discover, hbuild]

/-- Discovery depends only on what the root reaches: a resolver that says the same about the root
and all that calls lead to from it gives the same program or the same error, whatever it says about
other functions and however many it knows. -/
theorem discover_eq_of_agreeBelow (left right : Resolver) (markers : Markers) (root : FunctionId)
    (hagree : AgreeBelow left.declaration? right.declaration? root) :
    discover right markers root = discover left markers root :=
  discover_congr markers (Builder.build_congr hagree)

/-- A root that calls a function and an intrinsic, beside a function that nothing calls. -/
def callsLeft (beside : FunctionId × Declaration) : Resolver :=
  .ofList [
    (⟨"app", "main"⟩, .calling [⟨"app", "left"⟩, ⟨"std", "sin"⟩]),
    beside,
    (⟨"app", "left"⟩, .calling [⟨"std", "sin"⟩])]

/-- The root once beside a caller of its own and once beside a function with a call that resolves to
nothing. -/
theorem callsLeft_discover :
    AgreeBelow (callsLeft (⟨"app", "caller"⟩, .calling [⟨"app", "main"⟩])).declaration?
      (callsLeft (⟨"app", "broken"⟩, ⟨[⟨"missing()", none⟩], [], [], none, ""⟩)).declaration?
      ⟨"app", "main"⟩ ∧
    discover (callsLeft (⟨"app", "broken"⟩, ⟨[⟨"missing()", none⟩], [], [], none, ""⟩)) {}
        ⟨"app", "main"⟩ =
      discover (callsLeft (⟨"app", "caller"⟩, .calling [⟨"app", "main"⟩])) {} ⟨"app", "main"⟩ := by
  have hagree : AgreeBelow
      (callsLeft (⟨"app", "caller"⟩, .calling [⟨"app", "main"⟩])).declaration?
      (callsLeft (⟨"app", "broken"⟩, ⟨[⟨"missing()", none⟩], [], [], none, ""⟩)).declaration?
      ⟨"app", "main"⟩ :=
    .of_closed [⟨"app", "main"⟩, ⟨"app", "left"⟩, ⟨"std", "sin"⟩] (by decide) (by decide)
      (by decide)
  exact ⟨hagree, discover_eq_of_agreeBelow _ _ {} ⟨"app", "main"⟩ hagree⟩

end ShaderCalls
