import ShaderCalls.Proofs.Source.Bindings
import ShaderCalls.Source.File

/-!
# Open bindings

The walk forgets a name at the end of a block and nowhere else.  So a binding is open from where it
stands up to the end of the innermost block around it, whatever its construct says about the scope,
and a call of a single name is recorded as the call of a value exactly if a binding of the name is
open there.  For the names of parameters and of `let` statements this is where they are in scope.
-/

namespace ShaderCalls.Source

namespace Code

/-- A binding of a name stands at a place in some code. -/
def BindsAt (name : String) (code : Code) (place : List Nat) : Prop :=
  ∃ parts, code.at? place = some (.binding name parts)

def IsBlockAt (code : Code) (place : List Nat) : Prop :=
  ∃ statements, code.at? place = some (.block statements)

/-- A binding of a name stands in front of a position, and every block around the binding is around
the position too. -/
def OpenAt (name : String) (code : Code) (position : List Nat) : Prop :=
  ∃ place, code.BindsAt name place ∧ place < position ∧
    ∀ outer, outer <+: place → code.IsBlockAt outer → outer <+: position

/-- Some code has a binding of a name with no block of the code around it. -/
def StaysOpen (name : String) (code : Code) : Prop :=
  ∃ place, code.BindsAt name place ∧ ∀ outer, outer <+: place → ¬ code.IsBlockAt outer

variable {name : String} {code child : Code} {index : Nat} {place rest : List Nat}

/-! ## Bindings of a part -/

theorem bindsAt_nil_iff : code.BindsAt name [] ↔ code.boundName? = some name := by
  cases code <;> simp [BindsAt, at?, boundName?]

theorem bindsAt_cons_iff :
    code.BindsAt name (index :: place) ↔
      ∃ child, code.children[index]? = some child ∧ child.BindsAt name place := by
  simp only [BindsAt, at?, Option.bind_eq_some_iff]
  grind

/-- The blocks around a place in a part are those in the part, and the code itself if it is one. -/
theorem forall_isBlockAt_cons_iff (hchild : code.children[index]? = some child)
    {motive : List Nat → Prop} :
    (∀ outer, outer <+: index :: place → code.IsBlockAt outer → motive outer) ↔
      (code.IsBlockAt [] → motive []) ∧
        ∀ outer, outer <+: place → child.IsBlockAt outer → motive (index :: outer) := by
  have hinside : ∀ outer, code.IsBlockAt (index :: outer) ↔ child.IsBlockAt outer := by
    intro outer
    simp only [IsBlockAt, at?, hchild, Option.bind_some]
  constructor
  · intro hblocks
    refine ⟨hblocks [] List.nil_prefix, fun outer houter hblock => ?_⟩
    apply hblocks (index :: outer) (List.cons_prefix_cons.mpr ⟨rfl, houter⟩)
    exact (hinside outer).mpr hblock
  · rintro ⟨hcode, hpart⟩ outer houter hblock
    cases outer with
    | nil => exact hcode hblock
    | cons first outer =>
        obtain ⟨rfl, hprefix⟩ := List.cons_prefix_cons.mp houter
        exact hpart outer hprefix ((hinside outer).mp hblock)

/-- A binding stays open behind some code if it stays open behind a part of it, unless the code is
a block. -/
theorem staysOpen_iff :
    code.StaysOpen name ↔ ¬ code.IsBlockAt [] ∧
      (code.boundName? = some name ∨ ∃ child ∈ code.children, child.StaysOpen name) := by
  constructor
  · rintro ⟨place, hbinds, hblocks⟩
    apply And.intro (hblocks [] List.nil_prefix)
    cases place with
    | nil => exact Or.inl (bindsAt_nil_iff.mp hbinds)
    | cons index place =>
        obtain ⟨child, hchild, hbinds⟩ := bindsAt_cons_iff.mp hbinds
        have hpart := ((forall_isBlockAt_cons_iff hchild).mp hblocks).2
        exact Or.inr ⟨child, List.mem_of_getElem? hchild, place, hbinds, hpart⟩
  · rintro ⟨hcode, hbound | ⟨child, hmem, place, hbinds, hblocks⟩⟩
    · refine ⟨[], bindsAt_nil_iff.mpr hbound, fun outer houter => ?_⟩
      rw [List.prefix_nil.mp houter]
      exact hcode
    · obtain ⟨index, hchild⟩ := List.mem_iff_getElem?.mp hmem
      exact ⟨index :: place, bindsAt_cons_iff.mpr ⟨child, hchild, hbinds⟩,
        (forall_isBlockAt_cons_iff hchild).mpr ⟨hcode, hblocks⟩⟩

/-- What is open in a part is bound by the code itself, or stays open behind an earlier part, or is
open inside the part. -/
theorem openAt_cons_iff (hchild : code.children[index]? = some child) :
    code.OpenAt name (index :: rest) ↔
      code.boundName? = some name ∨
        (∃ earlier ∈ code.children.take index, earlier.StaysOpen name) ∨
          child.OpenAt name rest := by
  constructor
  · rintro ⟨place, hbinds, hbefore, hblocks⟩
    cases place with
    | nil => exact Or.inl (bindsAt_nil_iff.mp hbinds)
    | cons first place =>
        right
        obtain ⟨part, hpart, hbinds⟩ := bindsAt_cons_iff.mp hbinds
        have hinside := ((forall_isBlockAt_cons_iff hpart).mp hblocks).2
        simp only [List.cons_prefix_cons] at hinside
        rcases List.cons_lt_cons_iff.mp hbefore with hlt | ⟨rfl, hrest⟩
        · left
          refine ⟨part, List.mem_iff_getElem?.mpr ⟨first, ?_⟩, place, hbinds, ?_⟩
          · rw [List.getElem?_take_of_lt hlt, hpart]
          · intro outer houter hblock
            exact Nat.ne_of_lt hlt (hinside outer houter hblock).1
        · right
          obtain rfl := Option.some.inj (hchild.symm.trans hpart)
          exact ⟨place, hbinds, hrest, fun outer houter hblock =>
            (hinside outer houter hblock).2⟩
  · rintro (hbound | ⟨earlier, hmem, place, hbinds, hblocks⟩ | ⟨place, hbinds, hbefore, hblocks⟩)
    · refine ⟨[], bindsAt_nil_iff.mpr hbound, List.nil_lt_cons _ _, fun outer houter _ => ?_⟩
      rw [List.prefix_nil.mp houter]
      exact List.nil_prefix
    · obtain ⟨first, hlt, hfirst⟩ := List.mem_take_iff_getElem.mp hmem
      have hpart : code.children[first]? = some earlier :=
        List.getElem?_eq_some_iff.mpr ⟨by omega, hfirst⟩
      refine ⟨first :: place, bindsAt_cons_iff.mpr ⟨earlier, hpart, hbinds⟩,
        List.cons_lt_cons_iff.mpr (Or.inl (by omega)), ?_⟩
      apply (forall_isBlockAt_cons_iff (motive := (· <+: index :: rest)) hpart).mpr
      exact ⟨fun _ => List.nil_prefix, fun outer houter hblock =>
        absurd hblock (hblocks outer houter)⟩
    · refine ⟨index :: place, bindsAt_cons_iff.mpr ⟨child, hchild, hbinds⟩,
        List.cons_lt_cons_iff.mpr (Or.inr ⟨rfl, hbefore⟩), ?_⟩
      apply (forall_isBlockAt_cons_iff (motive := (· <+: index :: rest)) hchild).mpr
      exact ⟨fun _ => List.nil_prefix, fun outer houter hblock =>
        List.cons_prefix_cons.mpr ⟨rfl, hblocks outer houter hblock⟩⟩

/-! ## What the walk has bound -/

theorem mem_entered_iff (code : Code) (walk : Walk) :
    name ∈ (code.entered walk).bound ↔ name ∈ walk.bound ∨ code.boundName? = some name := by
  simp [entered, or_comm]

theorem mem_walkAll_iff_of {codes : List Code}
    (hcodes : ∀ code ∈ codes, ∀ walk : Walk,
      name ∈ (code.walk walk).bound ↔ name ∈ walk.bound ∨ code.StaysOpen name) (walk : Walk) :
    name ∈ (walkAll walk codes).bound ↔
      name ∈ walk.bound ∨ ∃ code ∈ codes, code.StaysOpen name := by
  induction codes generalizing walk with
  | nil => simp [walkAll]
  | cons code rest ih =>
      have hrest := ih (fun other hother => hcodes other (List.mem_cons_of_mem _ hother))
        (code.walk walk)
      rw [walkAll, hrest, hcodes code List.mem_cons_self, List.exists_mem_cons_iff, or_assoc]

/-- The walk has bound behind some code what it had bound in front of it and what stays open. -/
theorem mem_walk_iff (code : Code) (walk : Walk) :
    name ∈ (code.walk walk).bound ↔ name ∈ walk.bound ∨ code.StaysOpen name := by
  induction code using inductionOnChildren generalizing walk with
  | step code ih =>
      rw [walk_eq, staysOpen_iff]
      by_cases hblock : code.IsBlockAt []
      · have hleft : (code.left walk.bound
            (walkAll (code.entered walk) code.children)).bound = walk.bound := by
          obtain ⟨statements, hstatements⟩ := hblock
          cases hstatements
          rfl
        simp [hleft, hblock]
      · have hleft : code.left walk.bound (walkAll (code.entered walk) code.children) =
            walkAll (code.entered walk) code.children := by
          cases code with
          | block statements => exact absurd ⟨statements, rfl⟩ hblock
          | _ => rfl
        rw [hleft, mem_walkAll_iff_of ih, mem_entered_iff, or_assoc]
        simp [hblock]

theorem mem_walkAll_iff (codes : List Code) (walk : Walk) :
    name ∈ (walkAll walk codes).bound ↔
      name ∈ walk.bound ∨ ∃ code ∈ codes, code.StaysOpen name :=
  mem_walkAll_iff_of (fun code _ => code.mem_walk_iff) walk

theorem not_openAt_nil : ¬ code.OpenAt name [] := by
  rintro ⟨place, _, hbefore, _⟩
  exact List.not_lt_nil place hbefore

/-- The walk has bound at a position what it had bound in front of the code and what is open. -/
theorem mem_walkAt_iff {part : Code} {position : List Nat} (hpart : code.at? position = some part)
    (walk : Walk) :
    name ∈ (code.walkAt walk position).bound ↔ name ∈ walk.bound ∨ code.OpenAt name position := by
  induction position generalizing code walk with
  | nil => simp [walkAt, not_openAt_nil]
  | cons index rest ih =>
      obtain ⟨child, hchild, hpart⟩ := Option.bind_eq_some_iff.mp hpart
      have hwalk : code.walkAt walk (index :: rest) =
          child.walkAt (walkAll (code.entered walk) (code.children.take index)) rest := by
        rw [walkAt, hchild]
      rw [hwalk, ih hpart, mem_walkAll_iff, mem_entered_iff, openAt_cons_iff hchild]
      simp only [or_assoc]

/-! ## Names of `let` statements -/

/-- A binding of a name stands in the pattern of a `let` statement that has no call of the name. -/
inductive LetBindsAt (name : String) (code : Code) : List Nat → Prop
  | pattern {block rest : List Nat} {statements initializer : List Code} {index : Nat}
      {pattern : Code} (hblock : code.at? block = some (.block statements))
      (hlet : statements[index]? = some (.letStatement pattern initializer))
      (hbinds : pattern.PatternBinds name)
      (hcall : ∀ inner tokens parts,
        pattern.at? inner ≠ some (.call (some [name]) tokens parts)) :
      LetBindsAt name code (block ++ index :: initializer.length :: rest)

theorem at?_append {outer : List Nat} (houter : code.at? outer = some child)
    (rest : List Nat) : code.at? (outer ++ rest) = child.at? rest := by
  induction outer generalizing code with
  | nil =>
      cases houter
      rfl
  | cons index outer ih =>
      obtain ⟨part, hpart, houter⟩ := Option.bind_eq_some_iff.mp houter
      rw [List.cons_append, at?, hpart, Option.bind_some, ih houter]

theorem Binds.append {outer : List Nat} (houter : code.at? outer = some child)
    (hbinds : child.Binds name rest) : code.Binds name (outer ++ rest) := by
  induction outer generalizing code with
  | nil =>
      cases houter
      exact hbinds
  | cons index outer ih =>
      obtain ⟨part, hpart, houter⟩ := Option.bind_eq_some_iff.mp houter
      exact .inside hpart (ih houter)

theorem lt_of_append_lt {outer left right : List Nat} (hlt : outer ++ left < outer ++ right) :
    left < right := by
  induction outer with
  | nil => exact hlt
  | cons index outer ih =>
      apply ih
      rcases List.cons_lt_cons_iff.mp hlt with hlt | ⟨_, hlt⟩
      · exact absurd hlt (Nat.lt_irrefl index)
      · exact hlt

/-- Where the binding of a `let` statement is open at a call of the name, the name is in scope: the
call stands in a later statement of the block. -/
theorem LetBindsAt.binds {position : List Nat} (hlet : code.LetBindsAt name place)
    (hbefore : place < position)
    (hblocks : ∀ outer, outer <+: place → code.IsBlockAt outer → outer <+: position)
    {tokens : List Token} {parts : List Code}
    (hcall : code.at? position = some (.call (some [name]) tokens parts)) :
    code.Binds name position := by
  cases hlet with
  | @pattern block rest statements initializer index pattern hblock hlet hbinds hnoCall =>
      obtain ⟨inner, rfl⟩ := hblocks block (List.prefix_append _ _) ⟨statements, hblock⟩
      apply Binds.append hblock
      rw [at?_append hblock] at hcall
      have hbefore := lt_of_append_lt hbefore
      cases inner with
      | nil => exact absurd hbefore (List.not_lt_nil _)
      | cons later inner =>
          rcases List.cons_lt_cons_iff.mp hbefore with hlater | ⟨rfl, hsame⟩
          · exact .letStatement hlater hlet hbinds
          -- A call behind the binding in the same statement would stand in the pattern.
          · exfalso
            have hinside : (Code.letStatement pattern initializer).at? inner =
                some (.call (some [name]) tokens parts) := by
              simpa [at?, children, hlet] using hcall
            cases inner with
            | nil => exact absurd hsame (List.not_lt_nil _)
            | cons number inner =>
                have hlast : initializer.length ≤ number := by
                  rcases List.cons_lt_cons_iff.mp hsame with hlt | ⟨heq, _⟩
                  · exact Nat.le_of_lt hlt
                  · exact Nat.le_of_eq heq
                obtain ⟨part, hpart, hinside⟩ := Option.bind_eq_some_iff.mp hinside
                rw [children, List.getElem?_append_right hlast,
                  List.getElem?_singleton] at hpart
                split at hpart
                · cases hpart
                  exact hnoCall inner tokens parts hinside
                · contradiction

end Code

/-! ## Calls of a function -/

/-- Whether an item is a function that passes a test. -/
def Item.isFunctionThat (test : Function → Bool) : Item → Bool
  | .function declared => test declared
  | _ => false

theorem Item.exists_of_isFunctionThat {test : Function → Bool} {item : Item}
    (hitem : item.isFunctionThat test) : ∃ declared, item = .function declared ∧ test declared := by
  cases item with
  | function declared => exact ⟨declared, rfl, hitem⟩
  | _ => contradiction

namespace Function

variable {function : Function} {name : String} {position : List Nat}

/-- The parameters of a function and its body as one piece of code. -/
def code (function : Function) : Code :=
  .other (function.parameters.map (·.pattern) ++ [function.body])

/-- A binding of a name, in a parameter or in the body, is open at a position of the body. -/
def OpenAt (function : Function) (name : String) (position : List Nat) : Prop :=
  function.code.OpenAt name (function.parameters.length :: position)

theorem children_code_last :
    function.code.children[function.parameters.length]? = some function.body := by
  simp [code, Code.children]

theorem openAt_iff :
    function.OpenAt name position ↔
      (∃ parameter ∈ function.parameters, parameter.pattern.StaysOpen name) ∨
        function.body.OpenAt name position := by
  rw [OpenAt, Code.openAt_cons_iff children_code_last]
  simp [code, Code.children, Code.boundName?]

theorem mem_walkAt_body_iff {part : Code} (hpart : function.body.at? position = some part) :
    name ∈ (function.body.walkAt function.parameterWalk position).bound ↔
      function.OpenAt name position := by
  rw [Code.mem_walkAt_iff hpart, parameterWalk, Code.mem_walkAll_iff, openAt_iff]
  simp

/-- Only parameters and `let` statements bind a name. -/
structure LetsOnly (function : Function) (name : String) : Prop where
  parameters : ∀ parameter ∈ function.parameters,
    parameter.pattern.StaysOpen name → parameter.pattern.PatternBinds name
  body : ∀ place, function.body.BindsAt name place → function.body.LetBindsAt name place

/-- A name that only parameters and `let` statements bind is open where it is in scope. -/
theorem LetsOnly.openAt_iff_boundAt (hlets : function.LetsOnly name) {tokens : List Token}
    {parts : List Code}
    (hcall : function.body.at? position = some (.call (some [name]) tokens parts)) :
    function.OpenAt name position ↔ function.BoundAt name position := by
  constructor
  · intro hopen
    rcases openAt_iff.mp hopen with
      ⟨parameter, hmem, hparameter⟩ | ⟨place, hbinds, hbefore, hblocks⟩
    · exact Or.inl ⟨parameter, hmem, hlets.parameters parameter hmem hparameter⟩
    · exact Or.inr ((hlets.body place hbinds).binds hbefore hblocks hcall)
  · intro hbound
    exact (mem_walkAt_body_iff hcall).mp (hbound.mem_walkAt hcall)

theorem Locates.target_eq {located : List (List Nat × CallSite)}
    (hlocates : function.Locates located) {site : CallSite} (hsite : (position, site) ∈ located)
    {tokens : List Token} {parts : List Code}
    (hcall : function.body.at? position = some (.call (some [name]) tokens parts)) :
    site.target = if name ∈ (function.body.walkAt function.parameterWalk position).bound
      then .unsupported else .path [name] := by
  have hrecorded := (hlocates.located.mem_iff _ _).mp hsite
  rw [Code.siteAt?, hcall, Option.bind_some] at hrecorded
  cases hrecorded
  rfl

/-- A call of a single name is recorded as the call of a value exactly if a binding of the name is
open there, and as a call of the name otherwise.  The binding need not have the call in its scope,
unless only parameters and `let` statements bind the name. -/
theorem target_iff_openAt {located : List (List Nat × CallSite)}
    (hlocates : function.Locates located) {site : CallSite} (hsite : (position, site) ∈ located)
    {tokens : List Token} {parts : List Code}
    (hcall : function.body.at? position = some (.call (some [name]) tokens parts)) :
    (site.target = .unsupported ↔ function.OpenAt name position) ∧
      (site.target = .path [name] ↔ ¬ function.OpenAt name position) ∧
      (function.LetsOnly name →
        (function.OpenAt name position ↔ function.BoundAt name position)) := by
  have htarget := hlocates.target_eq hsite hcall
  have hopen : name ∈ (function.body.walkAt function.parameterWalk position).bound ↔
      function.OpenAt name position := mem_walkAt_body_iff hcall
  refine ⟨?_, ?_, fun hlets => hlets.openAt_iff_boundAt hcall⟩
  · rw [← hopen, htarget]
    split <;> simp_all
  · rw [← hopen, htarget]
    split <;> simp_all

/-- The body is `let hit = hit();`. -/
def rebindsHit : Function where
  name := "shade"
  line := 1
  attributes := []
  parameters := []
  result := none
  tokens := []
  statements := [.letStatement (.binding "hit" []) [.call (some ["hit"]) [] []]]

theorem rebindsHit_letsOnly : rebindsHit.LetsOnly "hit" where
  parameters := by simp [rebindsHit]
  body := by
    intro place hbinds
    have hplace : place = [0, 1] := by
      match place, hbinds with
      | [0, 1], _ => rfl
      | [], hbinds | [0], hbinds | [0, 0], hbinds | 0 :: 0 :: _ :: _, hbinds
      | 0 :: 1 :: _ :: _, hbinds | 0 :: (_ + 2) :: _, hbinds | (_ + 1) :: _, hbinds =>
          simp [Code.BindsAt, Code.at?, Code.children, body, rebindsHit] at hbinds
    have hblock : rebindsHit.body.at? [] = some (.block rebindsHit.statements) := rfl
    have hlet : rebindsHit.statements[0]? =
        some (.letStatement (.binding "hit" []) [.call (some ["hit"]) [] []]) := rfl
    have hcall : ∀ inner tokens parts,
        (Code.binding "hit" []).at? inner ≠ some (.call (some ["hit"]) tokens parts) := by
      intro inner tokens parts
      cases inner <;> simp [Code.at?, Code.children]
    rw [hplace]
    exact .pattern hblock hlet .binding hcall

/-- The initializer calls the function, since the statement binds the name behind it. -/
theorem rebindsHit_calls_hit :
    ∃ located site, rebindsHit.Locates located ∧ ([0, 0], site) ∈ located ∧
      rebindsHit.body.at? [0, 0] = some (.call (some ["hit"]) [] []) ∧
      rebindsHit.LetsOnly "hit" ∧ ¬ rebindsHit.OpenAt "hit" [0, 0] ∧
      ¬ rebindsHit.BoundAt "hit" [0, 0] ∧ site.target = .path ["hit"] := by
  obtain ⟨located, hlocates⟩ := rebindsHit.exists_locates
  have hcall : rebindsHit.body.at? [0, 0] = some (.call (some ["hit"]) [] []) := rfl
  have hposition : [0, 0] ∈ located.map (·.1) :=
    (hlocates.mem_positions_iff [0, 0]).mpr ⟨_, hcall, rfl⟩
  obtain ⟨⟨_, site⟩, hsite, rfl⟩ := List.mem_map.mp hposition
  obtain ⟨_, hpath, hscope⟩ := target_iff_openAt hlocates hsite hcall
  have hclosed : ¬ rebindsHit.OpenAt "hit" [0, 0] := by
    rw [← mem_walkAt_body_iff hcall]
    decide
  exact ⟨located, site, hlocates, hsite, hcall, rebindsHit_letsOnly, hclosed,
    mt (hscope rebindsHit_letsOnly).mpr hclosed, hpath.mpr hclosed⟩

/-- Whether the body of a function without parameters is `if let name = name() {}` with any pattern
around the bound name. -/
def scrutinizes (name : String) (function : Function) : Bool :=
  match function.parameters, function.statements with
  | [], [.other [.conditional
      (.letCondition (.other [.binding bound []]) (.call (some [called]) _ [.other []]))
      (.block []) []]] => bound == name && called == name
  | _, _ => false

theorem exists_of_scrutinizes (hfunction : function.scrutinizes name) :
    function.parameters = [] ∧ ∃ tokens, function.statements = [.other [.conditional
      (.letCondition (.other [.binding name []]) (.call (some [name]) tokens [.other []]))
      (.block []) []]] := by
  rw [scrutinizes] at hfunction
  split at hfunction
  · next hparameters hstatements =>
      rw [Bool.and_eq_true, beq_iff_eq, beq_iff_eq] at hfunction
      rw [hfunction.1, hfunction.2] at hstatements
      exact ⟨hparameters, _, hstatements⟩
  · contradiction

/-- The scrutinee is not in the scope of its pattern, but the walk comes to the pattern first. -/
theorem target_of_scrutinizes (hfunction : function.scrutinizes name) :
    ∃ located site tokens parts, function.Locates located ∧ ([0, 0, 0, 1], site) ∈ located ∧
      function.body.at? [0, 0, 0, 1] = some (.call (some [name]) tokens parts) ∧
      ¬ function.BoundAt name [0, 0, 0, 1] ∧ site.target = .unsupported := by
  obtain ⟨hparameters, tokens, hstatements⟩ := exists_of_scrutinizes hfunction
  obtain ⟨located, hlocates⟩ := function.exists_locates
  have hcall : function.body.at? [0, 0, 0, 1] =
      some (.call (some [name]) tokens [.other []]) := by
    rw [body, hstatements]
    rfl
  obtain ⟨site, hsite⟩ := hlocates.exists_site hcall rfl
  have hscope : ¬ function.BoundAt name [0, 0, 0, 1] := by
    rintro (⟨parameter, hmem, _⟩ | hbinds)
    · simp [hparameters] at hmem
    · rw [body, hstatements] at hbinds
      -- No construct on the way to the scrutinee binds a name for the part that leads there.
      cases hbinds with
      | letStatement hearlier => exact absurd hearlier (Nat.not_lt_zero _)
      | inside hother hbinds =>
          cases hother
          cases hbinds with
          | inside hconditional hbinds =>
              cases hconditional
              cases hbinds with
              | inside hcondition hbinds =>
                  cases hcondition
                  cases hbinds with
                  | inside hscrutinee hbinds =>
                      cases hscrutinee
                      cases hbinds
  have hopen : function.OpenAt name [0, 0, 0, 1] := by
    rw [← mem_walkAt_body_iff hcall, body, hstatements]
    exact List.mem_cons_self
  refine ⟨located, site, tokens, _, hlocates, hsite, hcall, hscope, ?_⟩
  rw [hlocates.target_eq hsite hcall, if_pos ((mem_walkAt_body_iff hcall).mpr hopen)]

/-- A condition matches the result of a function with a pattern that binds the function's name. -/
def matchesHit : String :=
  "fn hit() {} fn shade() { if let Some(hit) = hit() {} }"

/-- The call of the function is recorded as the call of a value, though no binding has it in its
scope. -/
theorem matchesHit_misses_hit :
    ∃ items function located site tokens parts, Item.ofSource? matchesHit = some items ∧
      .function function ∈ items ∧ function.Locates located ∧ ([0, 0, 0, 1], site) ∈ located ∧
      function.body.at? [0, 0, 0, 1] = some (.call (some ["hit"]) tokens parts) ∧
      ¬ function.BoundAt "hit" [0, 0, 0, 1] ∧ site.target = .unsupported := by
  have hfound : (Item.ofSource? matchesHit).any fun items =>
      items.any (Item.isFunctionThat (scrutinizes "hit")) := by
    decide +kernel
  obtain ⟨items, hitems, hany⟩ := (Option.any_eq_true ..).mp hfound
  obtain ⟨item, hitem, hfunction⟩ := List.any_eq_true.mp hany
  obtain ⟨function, rfl, hfunction⟩ := Item.exists_of_isFunctionThat hfunction
  obtain ⟨located, site, tokens, parts, htarget⟩ := target_of_scrutinizes hfunction
  exact ⟨items, function, located, site, tokens, parts, hitems, hitem, htarget⟩

end Function

end ShaderCalls.Source
