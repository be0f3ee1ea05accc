import ShaderCalls.Proofs.Discovery.Emission
import ShaderCalls.Proofs.Graph.ReportedDefects

/-!
# When discovery succeeds

The outcome of a discovery is decided by the declarations that the root reaches: by whether the root
is declared, then by whether the calls below it resolve and form no cycle, then by whether the
counts of its compute functions parse.
-/

namespace ShaderCalls

/-- The error is about the calls of a function. -/
def DiscoveryError.IsCall : DiscoveryError → Prop
  | .unresolvedCall .. => True
  | .cyclicCall _ => True
  | _ => False

/-- The counts of every compute function that a root reaches parse. -/
def CountsParse (declaration? : FunctionId → Option Declaration) (markers : Markers)
    (root : FunctionId) : Prop :=
  ∀ id declaration, Reaches declaration? root id → declaration? id = some declaration →
    declaration.CountsParse markers

variable {resolver : Resolver} {root : FunctionId}

theorem not_callsResolve_of_hasUnresolvedCall {caller : FunctionId} {text : String}
    (hcall : Builder.HasUnresolvedCall resolver.declaration? root caller text) :
    ¬ CallsResolve resolver.declaration? root := by
  obtain ⟨hreaches, declaration, call, hdeclaration, _, before, after, hsplit, hnone, _⟩ := hcall
  intro hresolve
  have hsome := hresolve caller declaration hreaches hdeclaration call (by simp [hsplit])
  simp [hnone] at hsome

theorem not_acyclic_of_hasCycle {cycle : List FunctionId}
    (hcycle : Builder.HasCycle resolver.declaration? root cycle) :
    ¬ Acyclic resolver.declaration? root := by
  obtain ⟨hcalls, first, hfirst, hreaches⟩ := hcycle
  exact fun hacyclic => hacyclic first hreaches (hcalls.transGen_head hfirst)

/-- A graph cannot be built when the root is not declared, or when a call below it does not resolve
or closes a cycle. -/
theorem build_error_cases {error : DiscoveryError}
    (hbuild : Builder.build resolver root = .error error) :
    (¬ Declared resolver.declaration? root ∧ error = .rootResolution root) ∨
    (Declared resolver.declaration? root ∧ error.IsCall ∧
      ¬ (CallsResolve resolver.declaration? root ∧ Acyclic resolver.declaration? root)) := by
  cases hroot : resolver.declaration? root with
  | none =>
      rw [Builder.build, Builder.buildWithin_of_none hroot] at hbuild
      cases hbuild
      exact Or.inl ⟨by simp [Declared, hroot], rfl⟩
  | some declaration =>
      have hreal := Builder.isReal_of_buildWithin hbuild
      have hdeclared := declared_of_eq_some hroot
      cases error with
      | rootResolution id => simp [Builder.IsReal, hroot] at hreal
      | unresolvedCall caller text =>
          exact Or.inr ⟨hdeclared, trivial,
            fun h => not_callsResolve_of_hasUnresolvedCall hreal h.1⟩
      | cyclicCall cycle =>
          exact Or.inr ⟨hdeclared, trivial, fun h => not_acyclic_of_hasCycle hreal h.2⟩
      | attributeArity => exact hreal.elim
      | attributeFormat => exact hreal.elim

/-- The four outcomes of a discovery. -/
inductive Verdict (resolver : Resolver) (markers : Markers) (root : FunctionId) :
    Except DiscoveryError Program → Prop
  | undeclared (hroot : ¬ Declared resolver.declaration? root) :
      Verdict resolver markers root (.error (.rootResolution root))
  | calls {error : DiscoveryError} (hroot : Declared resolver.declaration? root)
      (hcalls : ¬ (CallsResolve resolver.declaration? root ∧ Acyclic resolver.declaration? root))
      (hkind : error.IsCall) : Verdict resolver markers root (.error error)
  | counts {error : DiscoveryError} (hroot : Declared resolver.declaration? root)
      (hcalls : CallsResolve resolver.declaration? root ∧ Acyclic resolver.declaration? root)
      (hcounts : ¬ CountsParse resolver.declaration? markers root)
      (hkind : error.IsMarker) : Verdict resolver markers root (.error error)
  | success {program : Program} (hroot : Declared resolver.declaration? root)
      (hcalls : CallsResolve resolver.declaration? root ∧ Acyclic resolver.declaration? root)
      (hcounts : CountsParse resolver.declaration? markers root) :
      Verdict resolver markers root (.ok program)

theorem discover_verdict (resolver : Resolver) (markers : Markers) (root : FunctionId) :
    Verdict resolver markers root (discover resolver markers root) := by
  cases hbuild : Builder.build resolver root with
  | error error =>
      have hdiscover : discover resolver markers root = .error error := by
        rw [discover, hbuild]
        rfl
      rw [hdiscover]
      rcases build_error_cases hbuild with ⟨hroot, rfl⟩ | ⟨hroot, hkind, hcalls⟩
      · exact .undeclared hroot
      · exact .calls hroot hcalls hkind
  | ok graph =>
      obtain ⟨finished, hgraph⟩ := Builder.isComplete_of_build hbuild
      obtain ⟨ids, hids, hdiscover⟩ := discover_of_build markers hbuild
      have hcalls := And.intro hgraph.callsResolve hgraph.acyclic
      rw [hdiscover]
      rcases extractRecords_cases markers hids.declared with
        ⟨records, hok, _, hparse⟩ |
          ⟨error, herror, hkind, id, hid, declaration, hdeclaration, hfail⟩
      · rw [hok]
        refine .success hgraph.root_declared hcalls fun id declaration hreaches hdeclaration => ?_
        have hid : id ∈ ids :=
          (hids.mem_iff id).mpr ⟨hreaches.declared hgraph.root_declared, hreaches⟩
        exact hparse id hid declaration hdeclaration
      · rw [herror]
        refine .counts hgraph.root_declared hcalls (fun hparse => hfail ?_) hkind
        exact hparse id declaration ((hids.mem_iff id).mp hid).2 hdeclaration

/-- Discovery succeeds exactly when the root is declared, every call below it resolves, none of the
functions below it calls itself and the counts of its compute functions parse.  The first of these
that fails decides the kind of the error. -/
theorem discover_outcome (resolver : Resolver) (markers : Markers) (root : FunctionId) :
    ((∃ program, discover resolver markers root = .ok program) ↔
      Declared resolver.declaration? root ∧ CallsResolve resolver.declaration? root ∧
        Acyclic resolver.declaration? root ∧ CountsParse resolver.declaration? markers root) ∧
    ((∃ id, discover resolver markers root = .error (.rootResolution id)) ↔
      ¬ Declared resolver.declaration? root) ∧
    ((∃ error, discover resolver markers root = .error error ∧ error.IsCall) ↔
      Declared resolver.declaration? root ∧
        ¬ (CallsResolve resolver.declaration? root ∧ Acyclic resolver.declaration? root)) ∧
    ((∃ error, discover resolver markers root = .error error ∧ error.IsMarker) ↔
      Declared resolver.declaration? root ∧ CallsResolve resolver.declaration? root ∧
        Acyclic resolver.declaration? root ∧
          ¬ CountsParse resolver.declaration? markers root) := by
  have hverdict := discover_verdict resolver markers root
  generalize discover resolver markers root = outcome at hverdict
  cases hverdict with
  | undeclared hroot => simp [hroot, DiscoveryError.IsCall, DiscoveryError.IsMarker]
  | @calls error hroot hcalls hkind =>
      have hnot : ¬ error.IsMarker ∧ ∀ id, error ≠ .rootResolution id := by
        cases error <;> simp_all [DiscoveryError.IsCall, DiscoveryError.IsMarker]
      have hfails : CallsResolve resolver.declaration? root →
          ¬ Acyclic resolver.declaration? root := fun hresolve hacyclic =>
        hcalls ⟨hresolve, hacyclic⟩
      simpa [hroot, hkind, hnot.1, hnot.2] using
        ⟨fun hresolve hacyclic => absurd hacyclic (hfails hresolve), hfails,
          fun hresolve hacyclic => absurd hacyclic (hfails hresolve)⟩
  | @counts error hroot hcalls hcounts hkind =>
      have hnot : ¬ error.IsCall ∧ ∀ id, error ≠ .rootResolution id := by
        cases error <;> simp_all [DiscoveryError.IsCall, DiscoveryError.IsMarker]
      simp [hroot, hkind, hcalls.1, hcalls.2, hcounts, hnot.1, hnot.2]
  | success hroot hcalls hcounts => simp [hroot, hcalls.1, hcalls.2, hcounts]

end ShaderCalls
