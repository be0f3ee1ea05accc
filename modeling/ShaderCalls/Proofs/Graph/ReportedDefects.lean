import ShaderCalls.Proofs.Graph.BuilderRun

/-!
# What an error of the builder says about the program

A reported cycle is a cycle of calls that the root reaches, and a reported call is the first call of
a reachable body that resolves to nothing.  Nothing here depends on how many functions are declared:
the statements hold for a run of any number of rounds.
-/

namespace ShaderCalls

namespace Builder

variable {declaration? : FunctionId → Option Declaration} {root : FunctionId}

/-- The body of a reachable function has a call with the text that resolves to nothing, and all
calls before it resolve. -/
def HasUnresolvedCall (declaration? : FunctionId → Option Declaration) (root caller : FunctionId)
    (text : String) : Prop :=
  Reaches declaration? root caller ∧
    ∃ declaration call, declaration? caller = some declaration ∧ call.text = text ∧
      Call.FirstUnresolved declaration.calls call

/-- A cycle of calls whose first function the root reaches. -/
def HasCycle (declaration? : FunctionId → Option Declaration) (root : FunctionId)
    (cycle : List FunctionId) : Prop :=
  IsCallCycle declaration? cycle ∧ ∃ first ∈ cycle.head?, Reaches declaration? root first

/-- The defect that an error stands for is there.  Building raises no error about markers. -/
def IsReal (declaration? : FunctionId → Option Declaration) (root : FunctionId) :
    DiscoveryError → Prop
  | .rootResolution id => id = root ∧ declaration? root = none
  | .unresolvedCall caller text => HasUnresolvedCall declaration? root caller text
  | .cyclicCall cycle => HasCycle declaration? root cycle
  | _ => False

/-- The part of the chain between a function and its caller is a cycle of calls. -/
theorem Invariant.hasCycle {state : State} {chain finished inside outside queue : List FunctionId}
    {callee : FunctionId} {current : Nat} {stack : List Frame}
    (hstate : Invariant declaration? root state chain finished)
    (hstack : state.stack = ⟨current, callee :: queue⟩ :: stack)
    (hsplit : chain = inside ++ callee :: outside) :
    HasCycle declaration? root (callee :: inside.reverse) := by
  have hreverse : callee :: inside.reverse = (inside ++ [callee]).reverse := by simp
  have hinner : chain = (inside ++ [callee]) ++ outside := by simp [hsplit]
  obtain ⟨id, rest, hchain, _, hcalls⟩ := hstate.exists_head hstack
  refine ⟨⟨by simp, ?_, ?_, ?_, ?_⟩, callee, by simp, ?_⟩
  · rw [hreverse, List.nodup_reverse]
    exact (hinner ▸ hstate.nodup.of_append_left).of_append_left
  · intro other hother
    rw [hreverse, List.mem_reverse] at hother
    exact hstate.onChain.declared other (hinner ▸ List.mem_append_left outside hother)
  · rw [hreverse, List.isChain_reverse]
    have hwhole : chain.IsChain fun called caller => Calls declaration? caller called :=
      hstate.onChain.isChain
    exact (hinner ▸ hwhole).left_of_append
  · intro last hlast first hfirst
    have hid : last = id := by
      rw [hreverse, List.getLast?_reverse] at hlast
      have hhead : chain.head? = some last := by
        rw [hinner, List.head?_append_of_ne_nil _ (by simp)]
        exact hlast
      rw [hchain] at hhead
      exact (Option.some.inj hhead).symm
    have hcallee : first = callee := (Option.some.inj hfirst).symm
    rw [hid, hcallee]
    exact hcalls callee List.mem_cons_self
  · exact hstate.reached callee (by simp [hsplit])

/-- The error of a round is real. -/
theorem Invariant.isReal {state : State} {chain finished : List FunctionId}
    {error : DiscoveryError} (hstate : Invariant declaration? root state chain finished)
    (hstep : step declaration? state = .error error) : IsReal declaration? root error := by
  have houtcome := hstate.outcome
  rw [hstep] at houtcome
  cases houtcome with
  | cycle hstack hchain => exact hstate.hasCycle hstack hchain
  | @unresolved _ _ _ callee declaration call hstack _ _ hdeclaration _ hfirst =>
      obtain ⟨id, outside, hchain, _, hcalls⟩ := hstate.exists_head hstack
      have hid : Reaches declaration? root id := hstate.reached id (by simp [hchain])
      have hcall : CallsDeclared declaration? id callee :=
        ⟨hcalls callee List.mem_cons_self, declared_of_eq_some hdeclaration⟩
      exact ⟨hid.tail hcall, declaration, call, hdeclaration, rfl, hfirst⟩

theorem isReal_of_buildWithin {rounds : Nat} {error : DiscoveryError}
    (hbuild : buildWithin declaration? rounds root = .error error) :
    IsReal declaration? root error := by
  cases hroot : declaration? root with
  | none =>
      rw [buildWithin_of_none hroot] at hbuild
      cases hbuild
      exact ⟨rfl, hroot⟩
  | some declaration =>
      rw [buildWithin_of_some hroot] at hbuild
      rcases hasCallees_or_firstUnresolved hroot with
        ⟨callees, hok, hcallees⟩ | ⟨call, herror, hfirst⟩
      · cases hrun : run declaration? rounds (startState declaration? root callees) with
        | error first =>
            simp only [hok, hrun, Except.bind, Except.map, Except.error.injEq] at hbuild
            obtain ⟨last, chain, finished, hlast, hstep⟩ :=
              (Invariant.start hcallees).run_error hrun
            exact hbuild ▸ hlast.isReal hstep
        | ok last => simp [hok, hrun, Except.bind, Except.map] at hbuild
      · simp only [herror, Except.bind, Except.error.injEq] at hbuild
        subst hbuild
        exact ⟨.refl, declaration, call, hroot, rfl, hfirst⟩

/-- Whatever the declarations are, finitely many or not, a build that ends in a cycle or in an
unresolved call, after any number of rounds, names one that is there. -/
theorem buildWithin_error_is_real (declaration? : FunctionId → Option Declaration)
    (root : FunctionId) (rounds : Nat) :
    (∀ cycle, buildWithin declaration? rounds root = .error (.cyclicCall cycle) →
      IsCallCycle declaration? cycle ∧ ∃ first ∈ cycle.head?, Reaches declaration? root first) ∧
    (∀ caller text, buildWithin declaration? rounds root = .error (.unresolvedCall caller text) →
      Reaches declaration? root caller ∧
        ∃ declaration call, declaration? caller = some declaration ∧ call.text = text ∧
          ∃ before after, declaration.calls = before ++ call :: after ∧ call.callee = none ∧
            ∀ earlier ∈ before, earlier.callee.isSome) :=
  ⟨fun _ hbuild => isReal_of_buildWithin hbuild, fun _ _ hbuild => isReal_of_buildWithin hbuild⟩

/-- Two functions that call each other below one root, and a call that resolves to nothing below
another. -/
def brokenCalls : Resolver :=
  .ofList [
    (⟨"app", "main"⟩, .calling [⟨"std", "sin"⟩, ⟨"app", "ping"⟩]),
    (⟨"app", "ping"⟩, .calling [⟨"app", "pong"⟩]),
    (⟨"app", "pong"⟩, .calling [⟨"app", "leaf"⟩, ⟨"app", "ping"⟩]),
    (⟨"app", "leaf"⟩, .calling []),
    (⟨"app", "other"⟩,
      { Declaration.calling [] with
        calls := [⟨"leaf()", some ⟨"app", "leaf"⟩⟩, ⟨"missing()", none⟩] })]

theorem brokenCalls_errors_are_real :
    (IsCallCycle brokenCalls.declaration? [⟨"app", "ping"⟩, ⟨"app", "pong"⟩] ∧
      ∃ first ∈ [FunctionId.mk "app" "ping", ⟨"app", "pong"⟩].head?,
        Reaches brokenCalls.declaration? ⟨"app", "main"⟩ first) ∧
    (Reaches brokenCalls.declaration? ⟨"app", "other"⟩ ⟨"app", "other"⟩ ∧
      ∃ declaration call, brokenCalls.declaration? ⟨"app", "other"⟩ = some declaration ∧
        call.text = "missing()" ∧
          ∃ before after, declaration.calls = before ++ call :: after ∧ call.callee = none ∧
            ∀ earlier ∈ before, earlier.callee.isSome) :=
  ⟨(buildWithin_error_is_real brokenCalls.declaration? ⟨"app", "main"⟩
      (roundBound brokenCalls)).1 _ rfl,
    (buildWithin_error_is_real brokenCalls.declaration? ⟨"app", "other"⟩
      (roundBound brokenCalls)).2 _ _ rfl⟩

end Builder

end ShaderCalls
