import ShaderCalls.Proofs.Index.DeclarationPlaces
import ShaderCalls.Proofs.Index.FreeFunctions
import ShaderCalls.Proofs.Index.GlobImports
import ShaderCalls.Proofs.Source.OpenBindings

/-!
# Nested functions

A body may declare functions inside its blocks.  The walk passes them by, and no index declares
them: its functions stand among the items of modules.  So a call of a nested function is read as any
call of its name in the module, and it is kept apart from the functions of other modules only where
the name is ambiguous there.
-/

namespace ShaderCalls

/-! ## Bodies without their items -/

namespace Source

mutual

/-- Code with nothing in the place of its items. -/
def Code.bare : Code → Code
  | .call callee tokens parts => .call callee tokens (bareAll parts)
  | .method onSelf name tokens parts => .method onSelf name tokens (bareAll parts)
  | .macroUse (some arguments) tokens => .macroUse (some (bareAll arguments)) tokens
  | .macroUse none tokens => .macroUse none tokens
  | .binding name parts => .binding name (bareAll parts)
  | .letStatement pattern initializer => .letStatement pattern.bare (bareAll initializer)
  | .block statements => .block (bareAll statements)
  | .item _ => .empty
  | .closure parameters body => .closure (bareAll parameters) body.bare
  | .arm pattern guard body => .arm pattern.bare (bareAll guard) body.bare
  | .letCondition pattern scrutinee => .letCondition pattern.bare scrutinee.bare
  | .conditional condition consequent alternative =>
    .conditional condition.bare consequent.bare (bareAll alternative)
  | .whileLoop condition body => .whileLoop condition.bare body.bare
  | .forLoop pattern iterated body => .forLoop pattern.bare iterated.bare body.bare
  | .operation first rest => .operation first.bare (bareAll rest)
  | .other parts => .other (bareAll parts)

def bareAll : List Code → List Code
  | [] => []
  | code :: rest => code.bare :: bareAll rest

end

mutual

/-- The walk passes items by. -/
theorem Code.walk_bare (walk : Walk) : ∀ code : Code, code.bare.walk walk = code.walk walk
  | .call _ _ parts => by simp only [Code.bare, Code.walk, walkAll_bareAll]
  | .method _ _ _ parts => by simp only [Code.bare, Code.walk, walkAll_bareAll]
  | .macroUse (some arguments) _ => by simp only [Code.bare, Code.walk, walkAll_bareAll]
  | .macroUse none _ => rfl
  | .binding _ parts => by simp only [Code.bare, Code.walk, walkAll_bareAll]
  | .letStatement pattern initializer => by
      simp only [Code.bare, Code.walk, walkAll_bareAll, Code.walk_bare _ pattern]
  | .block statements => by simp only [Code.bare, Code.walk, walkAll_bareAll]
  | .item _ => rfl
  | .closure parameters body => by
      simp only [Code.bare, Code.walk, walkAll_bareAll, Code.walk_bare _ body]
  | .arm pattern guard body => by
      simp only [Code.bare, Code.walk, walkAll_bareAll, Code.walk_bare _ pattern,
        Code.walk_bare _ body]
  | .letCondition pattern scrutinee => by
      simp only [Code.bare, Code.walk, Code.walk_bare _ pattern, Code.walk_bare _ scrutinee]
  | .conditional condition consequent alternative => by
      simp only [Code.bare, Code.walk, walkAll_bareAll, Code.walk_bare _ condition,
        Code.walk_bare _ consequent]
  | .whileLoop condition body => by
      simp only [Code.bare, Code.walk, Code.walk_bare _ condition, Code.walk_bare _ body]
  | .forLoop pattern iterated body => by
      simp only [Code.bare, Code.walk, Code.walk_bare _ pattern, Code.walk_bare _ iterated,
        Code.walk_bare _ body]
  | .operation first rest => by
      simp only [Code.bare, Code.walk, walkAll_bareAll, Code.walk_bare _ first]
  | .other parts => by simp only [Code.bare, Code.walk, walkAll_bareAll]

theorem walkAll_bareAll (walk : Walk) : ∀ codes : List Code,
    walkAll walk (bareAll codes) = walkAll walk codes
  | [] => rfl
  | code :: rest => by
      rw [bareAll, walkAll, walkAll, Code.walk_bare walk code, walkAll_bareAll _ rest]

end

/-! ## Calls of nested functions -/

namespace Function

/-- A function without the items in its body. -/
def bare (function : Function) : Function :=
  { function with statements := bareAll function.statements }

theorem callSites_bare (function : Function) : function.bare.callSites = function.callSites := by
  rw [callSites, callSites, bare, Code.walk, Code.walk, walkAll_bareAll]

/-- A call of a name stands in a block, at any depth, that declares a function of this name, and
no binding in the block has the call in its scope. -/
inductive CallsNested (function : Function) (name : String) : List Nat → Prop
  | block {outer rest : List Nat} {statements parts : List Code} {tokens : List Token}
      (hblock : function.body.at? outer = some (.block statements))
      (hnested : .item (some name) ∈ statements)
      (hcall : (Code.block statements).at? rest = some (.call (some [name]) tokens parts))
      (hunbound : ¬ (Code.block statements).Binds name rest) :
      CallsNested function name (outer ++ rest)

variable {function : Function} {name : String} {position : List Nat}

theorem CallsNested.exists_call (hnested : function.CallsNested name position) :
    ∃ tokens parts, function.body.at? position = some (.call (some [name]) tokens parts) := by
  cases hnested with
  | @block outer rest statements parts tokens hblock _ hcall _ =>
      exact ⟨tokens, parts, (Code.at?_append hblock rest).trans hcall⟩

/-- Whether a function without parameters declares a function of a name in its body and then calls
it. -/
def nestsAndCalls (name : String) (function : Function) : Bool :=
  match function.parameters, function.statements with
  | [], [.item (some nested), .call (some [called]) _ [.other []]] =>
    nested == name && called == name
  | _, _ => false

theorem exists_of_nestsAndCalls (hfunction : function.nestsAndCalls name) :
    function.parameters = [] ∧ ∃ tokens, function.statements =
      [.item (some name), .call (some [name]) tokens [.other []]] := by
  rw [nestsAndCalls] at hfunction
  split at hfunction
  · next hparameters hstatements =>
      rw [Bool.and_eq_true, beq_iff_eq, beq_iff_eq] at hfunction
      rw [hfunction.1, hfunction.2] at hstatements
      exact ⟨hparameters, _, hstatements⟩
  · contradiction

theorem callsNested_of_nestsAndCalls (hfunction : function.nestsAndCalls name) :
    function.CallsNested name [1] ∧ ¬ function.OpenAt name [1] := by
  obtain ⟨hparameters, tokens, hstatements⟩ := exists_of_nestsAndCalls hfunction
  have hcall : function.body.at? [1] = some (.call (some [name]) tokens [.other []]) := by
    rw [body, hstatements]
    rfl
  have hclosed : ¬ function.OpenAt name [1] := by
    rw [← mem_walkAt_body_iff hcall, body, hstatements, parameterWalk, hparameters]
    exact List.not_mem_nil
  have hnested : .item (some name) ∈ function.statements := by
    simp [hstatements]
  have hunbound : ¬ function.body.Binds name [1] := by
    intro hbinds
    exact hclosed ((mem_walkAt_body_iff hcall).mp (hbinds.mem_walkAt hcall _))
  have hcalls : function.CallsNested name ([] ++ [1]) := .block rfl hnested hcall hunbound
  exact ⟨hcalls, hclosed⟩

end Function

end Source

/-! ## What the calls name -/

namespace SymbolIndex

open Source (CallSite Code Function Token)

variable {index : SymbolIndex} {scope : Scope} {module name : String}

/-- A text stands for a declared function. -/
def DeclaresText (index : SymbolIndex) (text : String) : Prop :=
  ∃ id, FunctionId.parse? text = some id ∧ (index.function? id).isSome

/-- The glob imports of a module bring in several functions of a name. -/
def SeveralGlobbed (index : SymbolIndex) (module name : String) : Prop :=
  ∃ left ∈ index.globCandidates module name, ∃ right ∈ index.globCandidates module name,
    left ≠ right ∧ index.DeclaresText left ∧ index.DeclaresText right

/-- What a name stands for in a module is left open: it is neither imported nor declared, and
several glob imports bring it in. -/
structure Ambiguous (index : SymbolIndex) (module name : String) : Prop where
  import_short : ∀ path, index.import? module name = some path → path.length ≤ 1
  undeclared : index.function? ⟨module, name⟩ = none
  several : index.SeveralGlobbed module name

theorem Choice.ofList_eq_several_iff {α : Type} {elements : List α} :
    Choice.ofList elements = .several ↔ 1 < elements.length := by
  rcases elements with _ | ⟨first, _ | ⟨second, rest⟩⟩ <;> simp [Choice.ofList]

theorem severalGlobbed_iff :
    index.SeveralGlobbed module name ↔
      1 < (((index.globCandidates module name).filterMap FunctionId.parse?).filter fun id =>
        (index.function? id).isSome).length := by
  rw [List.filter_filterMap, List.length_filterMap_eq_countP, List.countP_eq_length_filter,
    one_lt_length_iff_of_nodup ((nodup_globCandidates index module name).filter _)]
  simp only [List.mem_filter, Option.isSome_iff_exists, Option.filter_eq_some_iff, SeveralGlobbed,
    DeclaresText]
  grind

/-- A single name stands for nothing only where several glob imports bring it in. -/
theorem freeFunction?_eq_none_iff :
    index.freeFunction? module name = none ↔
      index.function? ⟨module, name⟩ = none ∧ index.SeveralGlobbed module name := by
  rw [severalGlobbed_iff, ← Choice.ofList_eq_several_iff, freeFunction?]
  split
  · next hdeclared => simp [Option.isSome_iff_ne_none.mp hdeclared]
  · next hundeclared =>
      rw [Option.not_isSome_iff_eq_none] at hundeclared
      dsimp only
      split <;> simp_all

/-- A call of a single name names nothing exactly if the name is ambiguous. -/
theorem callee?_name_eq_none_iff :
    index.callee? scope (.path [name]) = none ↔ index.Ambiguous scope.module name := by
  by_cases himport : ∀ path, index.import? scope.module name = some path → path.length ≤ 1
  · rw [callee?_of_not_imported himport, freeFunction?_eq_none_iff]
    exact ⟨fun ⟨hundeclared, hseveral⟩ => ⟨himport, hundeclared, hseveral⟩,
      fun hambiguous => ⟨hambiguous.undeclared, hambiguous.several⟩⟩
  · have hshort : ¬ index.Ambiguous scope.module name := fun hambiguous =>
      himport hambiguous.import_short
    push Not at himport
    obtain ⟨path, hpath, hlong⟩ := himport
    simp [callee?_of_imported hpath hlong, hshort]

/-- The calls of nested functions in the body of a function name no declared function, nor one that
is declared nowhere. -/
def KeepsNestedApart (index : SymbolIndex) (scope : Scope) (function : Function) : Prop :=
  ∀ located, function.Locates located → ∀ name position site,
    function.CallsNested name position → (position, site) ∈ located →
      index.callee? scope site.target = none

/-- A call in the body of a function names nothing if the walk has its name bound, or if the name is
ambiguous. -/
theorem callee?_site_eq_none_iff {function : Function} {located : List (List Nat × CallSite)}
    (hlocates : function.Locates located) {position : List Nat} {site : CallSite}
    (hsite : (position, site) ∈ located) {tokens : List Token} {parts : List Code}
    (hcall : function.body.at? position = some (.call (some [name]) tokens parts)) :
    index.callee? scope site.target = none ↔
      function.OpenAt name position ∨ index.Ambiguous scope.module name := by
  rw [hlocates.target_eq hsite hcall, ← Function.mem_walkAt_body_iff hcall,
    ← callee?_name_eq_none_iff]
  split
  · next hbound => simp [callee?, hbound]
  · next hfree => simp [hfree]

/-- Nothing in the index stands for a nested function: its functions stand at places among the
items of files, and the sites of a body are those without its items.  So a call of a nested function
is read as one of any function, and it is kept apart exactly if a binding of the name from around
the block is open there or the name is ambiguous in the module. -/
theorem keepsNestedApart_iff (files : List SourceFile) (scope : Scope) (function : Function) :
    ((ofFiles files).KeepsNestedApart scope function ↔
      ∀ name position, function.CallsNested name position →
        function.OpenAt name position ∨ (ofFiles files).Ambiguous scope.module name) ∧
    function.bare.callSites = function.callSites ∧
    ∀ declared ∈ (ofFiles files).functions, ∃ file ∈ files, ∃ place,
      file.declarationAt? place = some declared := by
  refine ⟨⟨fun hapart name position hnested => ?_, fun hnested => ?_⟩,
    function.callSites_bare, fun declared hdeclared => ?_⟩
  · obtain ⟨located, hlocates⟩ := function.exists_locates
    obtain ⟨tokens, parts, hcall⟩ := hnested.exists_call
    obtain ⟨site, hsite⟩ := hlocates.exists_site hcall rfl
    exact (callee?_site_eq_none_iff hlocates hsite hcall).mp
      (hapart located hlocates name position site hnested hsite)
  · intro located hlocates name position site hcalls hsite
    obtain ⟨tokens, parts, hcall⟩ := hcalls.exists_call
    exact (callee?_site_eq_none_iff hlocates hsite hcall).mpr (hnested name position hcalls)
  · exact Outline.exists_place_of_mem_ofFiles (DeclaredFunction.firstOfEach_subset _ hdeclared)

/-- A function declares a function in its body that has the name of one of the module. -/
def nestsG : SourceFile :=
  ⟨"shaders", "shaders.rs", "fn g() {} fn f() { fn g() {} g(); }"⟩

/-- The call of the nested function names the function of the module. -/
theorem nestsG_finds_outer :
    ∃ function located site,
      nestsG.declarationAt? [1] = some (.ofFunction "shaders.rs" ⟨"shaders", none⟩ function) ∧
      function.CallsNested "g" [1] ∧ function.Locates located ∧ ([1], site) ∈ located ∧
      (ofFiles [nestsG]).callee? ⟨"shaders", none⟩ site.target = some ⟨"shaders", "g"⟩ ∧
      ((ofFiles [nestsG]).function? ⟨"shaders", "g"⟩).isSome ∧
      ¬ (ofFiles [nestsG]).KeepsNestedApart ⟨"shaders", none⟩ function := by
  have hfound : (Source.Item.ofSource? nestsG.text).any fun items =>
      items[1]?.any (Source.Item.isFunctionThat (Function.nestsAndCalls "g")) := by
    decide +kernel
  obtain ⟨items, hitems, hitem⟩ := (Option.any_eq_true ..).mp hfound
  obtain ⟨item, hitem, hfunction⟩ := (Option.any_eq_true ..).mp hitem
  obtain ⟨function, rfl, hfunction⟩ := Source.Item.exists_of_isFunctionThat hfunction
  obtain ⟨hnested, hclosed⟩ := Function.callsNested_of_nestsAndCalls hfunction
  obtain ⟨tokens, parts, hcall⟩ := hnested.exists_call
  obtain ⟨located, hlocates⟩ := function.exists_locates
  obtain ⟨site, hsite⟩ := hlocates.exists_site hcall rfl
  have htarget : site.target = .path ["g"] := by
    rw [hlocates.target_eq hsite hcall, if_neg (mt (Function.mem_walkAt_body_iff hcall).mp hclosed)]
  have hcallee : (ofFiles [nestsG]).callee? ⟨"shaders", none⟩ (.path ["g"]) =
      some ⟨"shaders", "g"⟩ := by
    decide +kernel
  have hdeclared : ((ofFiles [nestsG]).function? ⟨"shaders", "g"⟩).isSome := by
    decide +kernel
  have hplace : nestsG.declarationAt? [1] =
      some (.ofFunction "shaders.rs" ⟨"shaders", none⟩ function) := by
    rw [SourceFile.declarationAt?, hitems, Option.bind_some, inParts, hitem]
    rfl
  refine ⟨function, located, site, hplace, hnested, hlocates, hsite, ?_, hdeclared, ?_⟩
  · rw [htarget, hcallee]
  · intro hapart
    have hnone := hapart located hlocates "g" [1] site hnested hsite
    rw [htarget, hcallee] at hnone
    exact Option.some_ne_none _ hnone

end SymbolIndex

end ShaderCalls
