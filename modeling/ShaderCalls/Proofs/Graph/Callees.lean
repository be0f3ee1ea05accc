import ShaderCalls.Graph.Callees
import ShaderCalls.Proofs.Graph.Calls

/-!
# The callees of a body

The list of callees holds the functions that the calls of a body resolve to, each once.  It fails
exactly when some call does not resolve, with the first such call.
-/

namespace ShaderCalls

namespace Call

variable {caller : FunctionId} {found callees : List FunctionId} {calls : List Call}

theorem mem_calleesAfter (hcallees : calleesAfter caller found calls = .ok callees)
    (id : FunctionId) :
    id ∈ callees ↔ id ∈ found ∨ ∃ call ∈ calls, call.callee = some id := by
  induction calls generalizing found with
  | nil =>
      simp only [calleesAfter, Except.ok.injEq] at hcallees
      simp [hcallees]
  | cons call rest ih =>
      cases hcallee : call.callee with
      | none => simp [calleesAfter, hcallee] at hcallees
      | some callee =>
          simp only [calleesAfter, hcallee] at hcallees
          have hinsert : id ∈ (if callee ∈ found then found else found ++ [callee]) ↔
              id ∈ found ∨ callee = id := by
            split
            · next hmem => exact ⟨Or.inl, fun h => h.elim (fun h => h) (fun h => h ▸ hmem)⟩
            · simp [eq_comm]
          rw [ih hcallees, hinsert]
          simp [hcallee, or_assoc]

theorem nodup_calleesAfter (hcallees : calleesAfter caller found calls = .ok callees)
    (hfound : found.Nodup) : callees.Nodup := by
  induction calls generalizing found with
  | nil =>
      simp only [calleesAfter, Except.ok.injEq] at hcallees
      exact hcallees ▸ hfound
  | cons call rest ih =>
      cases hcallee : call.callee with
      | none => simp [calleesAfter, hcallee] at hcallees
      | some callee =>
          simp only [calleesAfter, hcallee] at hcallees
          apply ih hcallees
          split
          · exact hfound
          · next hmem => exact List.nodup_append.2 ⟨hfound, by simp, by grind⟩

theorem length_calleesAfter_le (hcallees : calleesAfter caller found calls = .ok callees) :
    callees.length ≤ found.length + calls.length := by
  induction calls generalizing found with
  | nil =>
      simp only [calleesAfter, Except.ok.injEq] at hcallees
      simp [hcallees]
  | cons call rest ih =>
      cases hcallee : call.callee with
      | none => simp [calleesAfter, hcallee] at hcallees
      | some callee =>
          simp only [calleesAfter, hcallee] at hcallees
          have hlength := ih hcallees
          split at hlength <;> simp only [List.length_append, List.length_cons,
            List.length_nil] at hlength ⊢ <;> omega

/-- The first call that resolves to nothing, behind calls that all resolve. -/
def FirstUnresolved (calls : List Call) (call : Call) : Prop :=
  ∃ before after, calls = before ++ call :: after ∧ call.callee = none ∧
    ∀ earlier ∈ before, earlier.callee.isSome

/-- The calls resolve one after the other, so the first one that does not decides the error. -/
theorem calleesAfter_cases (caller : FunctionId) (found : List FunctionId) (calls : List Call) :
    (∃ callees, calleesAfter caller found calls = .ok callees ∧
      ∀ call ∈ calls, call.callee.isSome) ∨
    (∃ call, calleesAfter caller found calls = .error (.unresolvedCall caller call.text) ∧
      FirstUnresolved calls call) := by
  induction calls generalizing found with
  | nil => exact Or.inl ⟨found, rfl, by simp⟩
  | cons call rest ih =>
      cases hcallee : call.callee with
      | none =>
          exact Or.inr ⟨call, by simp [calleesAfter, hcallee], [], rest, rfl, hcallee, by simp⟩
      | some callee =>
          simp only [calleesAfter, hcallee]
          rcases ih (if callee ∈ found then found else found ++ [callee]) with
            ⟨callees, hok, hresolve⟩ | ⟨unresolved, herror, before, after, hsplit, hnone, hbefore⟩
          · refine Or.inl ⟨callees, hok, ?_⟩
            simpa [hcallee] using hresolve
          · refine Or.inr ⟨unresolved, herror, call :: before, after, by simp [hsplit], hnone, ?_⟩
            simpa [hcallee] using hbefore

end Call

variable {declaration? : FunctionId → Option Declaration}

/-- The list of callees that the declaration of a function gives. -/
def HasCallees (declaration? : FunctionId → Option Declaration) (id : FunctionId)
    (callees : List FunctionId) : Prop :=
  ∃ declaration, declaration? id = some declaration ∧ declaration.callees id = .ok callees

namespace HasCallees

variable {id : FunctionId} {callees : List FunctionId}

theorem mem_iff (hcallees : HasCallees declaration? id callees) (callee : FunctionId) :
    callee ∈ callees ↔ Calls declaration? id callee := by
  obtain ⟨declaration, hdeclaration, hok⟩ := hcallees
  simp [Call.mem_calleesAfter hok, Calls, hdeclaration]

theorem nodup (hcallees : HasCallees declaration? id callees) : callees.Nodup := by
  obtain ⟨declaration, _, hok⟩ := hcallees
  exact Call.nodup_calleesAfter hok List.nodup_nil

theorem declared (hcallees : HasCallees declaration? id callees) : Declared declaration? id := by
  obtain ⟨declaration, hdeclaration, _⟩ := hcallees
  exact declared_of_eq_some hdeclaration

/-- A function has a list of callees only if all its calls resolve. -/
theorem callsResolve (hcallees : HasCallees declaration? id callees) {declaration : Declaration}
    (hdeclaration : declaration? id = some declaration) :
    ∀ call ∈ declaration.calls, call.callee.isSome := by
  obtain ⟨_, hsame, hok⟩ := hcallees
  cases hdeclaration.symm.trans hsame
  rcases Call.calleesAfter_cases id [] declaration.calls with ⟨_, _, hresolve⟩ | ⟨call, herror, _⟩
  · exact hresolve
  · rw [Declaration.callees, herror] at hok
    contradiction

end HasCallees

/-- A declared function has a list of callees, or its first unresolved call is the error. -/
theorem hasCallees_or_firstUnresolved {id : FunctionId} {declaration : Declaration}
    (hdeclaration : declaration? id = some declaration) :
    (∃ callees, declaration.callees id = .ok callees ∧ HasCallees declaration? id callees) ∨
    (∃ call, declaration.callees id = .error (.unresolvedCall id call.text) ∧
      Call.FirstUnresolved declaration.calls call) := by
  rcases Call.calleesAfter_cases id [] declaration.calls with ⟨callees, hok, _⟩ | herror
  · exact Or.inl ⟨callees, hok, declaration, hdeclaration, hok⟩
  · exact Or.inr herror

end ShaderCalls
