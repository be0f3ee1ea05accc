import ShaderCalls.Proofs.Source.CallSites

/-!
# Bindings

Where the names that a body binds are in scope.  A pattern binds its names for the code that its
construct says: a `let` statement for the statements behind it, a parameter of a closure for the
closure's body, a pattern of an arm for the guard and the body of the arm, a condition for what it
guards.  The walk has each name in scope among its bound names, so it records a call of the name as
the call of a value.
-/

namespace ShaderCalls.Source

namespace Code

/-! ## Scopes -/

/-- A pattern binds a name, by itself or in a pattern inside it. -/
inductive PatternBinds (name : String) : Code → Prop
  | binding {parts : List Code} : PatternBinds name (.binding name parts)
  | under {other : String} {parts : List Code} {part : Code} (hpart : part ∈ parts)
      (hbinds : PatternBinds name part) : PatternBinds name (.binding other parts)
  | inside {parts : List Code} {part : Code} (hpart : part ∈ parts)
      (hbinds : PatternBinds name part) : PatternBinds name (.other parts)

/-- A condition binds a name for what holds only under the condition: in a `let` that is the
condition or an operand of it. -/
inductive ConditionBinds (name : String) : Code → Prop
  | letCondition {pattern scrutinee : Code} (hbinds : PatternBinds name pattern) :
      ConditionBinds name (.letCondition pattern scrutinee)
  | first {first : Code} {rest : List Code} (hbinds : ConditionBinds name first) :
      ConditionBinds name (.operation first rest)
  | operand {first operand : Code} {rest : List Code} (hoperand : operand ∈ rest)
      (hbinds : ConditionBinds name operand) : ConditionBinds name (.operation first rest)
  | inside {parts : List Code} {part : Code} (hpart : part ∈ parts)
      (hbinds : ConditionBinds name part) : ConditionBinds name (.other parts)

/-- Some code binds a name at a position inside it. -/
inductive Binds (name : String) : Code → List Nat → Prop
  | inside {code child : Code} {index : Nat} {rest : List Nat}
      (hchild : code.children[index]? = some child) (hbinds : Binds name child rest) :
      Binds name code (index :: rest)
  /-- for the statements behind it -/
  | letStatement {statements initializer : List Code} {pattern : Code} {earlier index : Nat}
      {rest : List Nat} (hearlier : earlier < index)
      (hlet : statements[earlier]? = some (.letStatement pattern initializer))
      (hbinds : PatternBinds name pattern) : Binds name (.block statements) (index :: rest)
  | closure {parameters : List Code} {parameter body : Code} {rest : List Nat}
      (hparameter : parameter ∈ parameters) (hbinds : PatternBinds name parameter) :
      Binds name (.closure parameters body) (parameters.length :: rest)
  /-- for the guard and the body -/
  | arm {pattern body : Code} {guard : List Code} {index : Nat} {rest : List Nat}
      (hbinds : PatternBinds name pattern) :
      Binds name (.arm pattern guard body) ((index + 1) :: rest)
  | guard {pattern body condition : Code} {guard : List Code} {rest : List Nat}
      (hcondition : condition ∈ guard) (hbinds : ConditionBinds name condition) :
      Binds name (.arm pattern guard body) ((guard.length + 1) :: rest)
  /-- for the operands behind it -/
  | operand {first : Code} {operands : List Code} {index : Nat} {rest : List Nat}
      (hbinds : ConditionBinds name first) :
      Binds name (.operation first operands) ((index + 1) :: rest)
  | conditional {condition consequent : Code} {alternative : List Code} {rest : List Nat}
      (hbinds : ConditionBinds name condition) :
      Binds name (.conditional condition consequent alternative) (1 :: rest)
  | whileLoop {condition body : Code} {rest : List Nat}
      (hbinds : ConditionBinds name condition) : Binds name (.whileLoop condition body) (1 :: rest)
  | forLoop {pattern iterated body : Code} {rest : List Nat} (hbinds : PatternBinds name pattern) :
      Binds name (.forLoop pattern iterated body) (2 :: rest)

/-! ## Names that the walk has bound -/

variable {name : String}

theorem subset_walkAll_of {codes : List Code}
    (hcodes : ∀ code ∈ codes, ∀ walk, walk.bound ⊆ (code.walk walk).bound) (walk : Walk) :
    walk.bound ⊆ (walkAll walk codes).bound := by
  induction codes generalizing walk with
  | nil => exact List.Subset.refl _
  | cons code rest ih =>
      have hcode := hcodes code List.mem_cons_self walk
      have hrest := ih (fun other hother => hcodes other (List.mem_cons_of_mem _ hother))
        (code.walk walk)
      exact List.Subset.trans hcode hrest

/-- Nothing that is bound in front of some code gets unbound by it. -/
theorem subset_walk (code : Code) (walk : Walk) : walk.bound ⊆ (code.walk walk).bound := by
  induction code using inductionOnChildren generalizing walk with
  | step code ih =>
      have hentered : walk.bound ⊆ (code.entered walk).bound :=
        List.subset_append_right _ _
      have hinside := List.Subset.trans hentered (subset_walkAll_of ih (code.entered walk))
      rw [walk_eq]
      -- A block goes back to the names from before it; behind other code there are only more.
      cases code with
      | block statements => exact List.Subset.refl _
      | _ => exact hinside

theorem subset_walkAll (codes : List Code) (walk : Walk) :
    walk.bound ⊆ (walkAll walk codes).bound :=
  subset_walkAll_of (fun code _ => code.subset_walk) walk

theorem subset_walkAt (code : Code) (walk : Walk) (position : List Nat) :
    walk.bound ⊆ (code.walkAt walk position).bound := by
  induction position generalizing code walk with
  | nil => exact List.Subset.refl _
  | cons index rest ih =>
      rw [walkAt]
      split
      · next child _ =>
          have hentered : walk.bound ⊆ (code.entered walk).bound :=
            List.subset_append_right _ _
          have hbefore := subset_walkAll (code.children.take index) (code.entered walk)
          exact List.Subset.trans (List.Subset.trans hentered hbefore) (ih child _)
      · exact List.Subset.refl _

/-- The walk leaves a name bound behind some code, whatever is bound in front of it. -/
def LeavesBound (name : String) (code : Code) : Prop :=
  ∀ walk, name ∈ (code.walk walk).bound

theorem mem_walkAll_of_leavesBound {codes : List Code} {code : Code} (hcode : code ∈ codes)
    (hbound : LeavesBound name code) (walk : Walk) : name ∈ (walkAll walk codes).bound := by
  obtain ⟨before, after, rfl⟩ := List.append_of_mem hcode
  rw [walkAll_append]
  exact subset_walkAll after _ (hbound _)

theorem PatternBinds.leavesBound {pattern : Code} (hbinds : PatternBinds name pattern) :
    LeavesBound name pattern := by
  induction hbinds with
  | @binding parts =>
      intro walk
      exact subset_walkAll parts _ List.mem_cons_self
  | under hpart _ ih =>
      intro walk
      exact mem_walkAll_of_leavesBound hpart ih _
  | inside hpart _ ih =>
      intro walk
      exact mem_walkAll_of_leavesBound hpart ih _

theorem ConditionBinds.leavesBound {condition : Code} (hbinds : ConditionBinds name condition) :
    LeavesBound name condition := by
  induction hbinds with
  | @letCondition pattern scrutinee hpattern =>
      intro walk
      exact subset_walk scrutinee _ (hpattern.leavesBound walk)
  | @first first rest _ ih =>
      intro walk
      exact subset_walkAll rest _ (ih walk)
  | operand hoperand _ ih =>
      intro walk
      exact mem_walkAll_of_leavesBound hoperand ih _
  | inside hpart _ ih =>
      intro walk
      exact mem_walkAll_of_leavesBound hpart ih _

/-- A name that a part in front of a position leaves bound is bound at the position. -/
theorem mem_walkAt_of_leavesBound {code part before : Code} {index : Nat} {rest : List Nat}
    (hpart : code.at? (index :: rest) = some part) (hbefore : before ∈ code.children.take index)
    (hbound : LeavesBound name before) (walk : Walk) :
    name ∈ (code.walkAt walk (index :: rest)).bound := by
  obtain ⟨child, hchild, _⟩ := Option.bind_eq_some_iff.mp hpart
  rw [walkAt, hchild]
  exact subset_walkAt child _ rest (mem_walkAll_of_leavesBound hbefore hbound _)

/-- The walk has a name in scope among its bound names. -/
theorem Binds.mem_walkAt {code part : Code} {position : List Nat}
    (hbinds : Binds name code position) (hpart : code.at? position = some part) (walk : Walk) :
    name ∈ (code.walkAt walk position).bound := by
  induction hbinds generalizing walk with
  | @inside code child index rest hchild _ ih =>
      rw [at?, hchild] at hpart
      rw [walkAt, hchild]
      exact ih hpart _
  | @letStatement statements initializer pattern earlier index rest hearlier hlet hpattern =>
      have hbefore : Code.letStatement pattern initializer ∈ statements.take index := by
        rw [List.mem_iff_getElem?]
        exact ⟨earlier, by rw [List.getElem?_take_of_lt hearlier, hlet]⟩
      exact mem_walkAt_of_leavesBound hpart hbefore
        (fun walk => hpattern.leavesBound (walkAll walk initializer)) walk
  | closure hparameter hpattern =>
      refine mem_walkAt_of_leavesBound hpart ?_ hpattern.leavesBound walk
      simpa [children] using hparameter
  | arm hpattern =>
      refine mem_walkAt_of_leavesBound hpart ?_ hpattern.leavesBound walk
      simp [children]
  | guard hcondition hcondBinds =>
      refine mem_walkAt_of_leavesBound hpart ?_ hcondBinds.leavesBound walk
      simp [children, hcondition]
  | operand hfirst =>
      refine mem_walkAt_of_leavesBound hpart ?_ hfirst.leavesBound walk
      simp [children]
  | conditional hcondition =>
      refine mem_walkAt_of_leavesBound hpart ?_ hcondition.leavesBound walk
      simp [children]
  | whileLoop hcondition =>
      refine mem_walkAt_of_leavesBound hpart ?_ hcondition.leavesBound walk
      simp [children]
  | forLoop hpattern =>
      refine mem_walkAt_of_leavesBound hpart ?_ hpattern.leavesBound walk
      simp [children]

end Code

/-! ## Calls of bound names -/

namespace Function

/-- A parameter of a function binds a name, or the body binds it at a position. -/
def BoundAt (function : Function) (name : String) (position : List Nat) : Prop :=
  (∃ parameter ∈ function.parameters, parameter.pattern.PatternBinds name) ∨
    function.body.Binds name position

variable {function : Function} {name : String}

theorem BoundAt.mem_walkAt {position : List Nat} {part : Code}
    (hbound : function.BoundAt name position) (hpart : function.body.at? position = some part) :
    name ∈ (function.body.walkAt function.parameterWalk position).bound := by
  rcases hbound with ⟨parameter, hmem, hpattern⟩ | hbinds
  · apply function.body.subset_walkAt function.parameterWalk position
    exact Code.mem_walkAll_of_leavesBound (List.mem_map_of_mem hmem) hpattern.leavesBound _
  · exact hbinds.mem_walkAt hpart _

theorem Locates.target_of_boundAt {located : List (List Nat × CallSite)}
    (hlocates : function.Locates located) {position : List Nat} {site : CallSite}
    (hsite : (position, site) ∈ located) {tokens : List Token} {parts : List Code}
    (hcall : function.body.at? position = some (.call (some [name]) tokens parts))
    (hbound : function.BoundAt name position) : site.target = .unsupported := by
  have hrecorded := (hlocates.located.mem_iff _ _).mp hsite
  rw [Code.siteAt?, hcall, Option.bind_some] at hrecorded
  cases hrecorded
  simp [Walk.targetOf, hbound.mem_walkAt hcall]

end Function

end ShaderCalls.Source
