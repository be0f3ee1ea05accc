import ShaderCalls.Index.Resolution
import ShaderCalls.Proofs.Graph.Callees
import ShaderCalls.Proofs.Source.Bindings
import ShaderCalls.Source.Grammar.Attribute

/-!
# The calls of a body

A body is a tree of code, and the sites that the walk collects stand for the calls at its positions:
one for each call, in the order of the positions, and none for anything else.  So a body that has a
list of callees has all its calls resolved, and one call of a local value is enough for an error.
The walk knows the names that patterns bind.  It does not see into a `box` pattern, which the parser
keeps as it is written.
-/

namespace ShaderCalls

open Source (CallSite Code Function Token)
open Source.Parser (commaList operator rawGroup)

/-! ## Macro uses -/

namespace Source.Grammar

variable {phrases : Phrases} {content tokens : List Token}

/-- The code of a macro use by its content: a list of expressions, or else `value; count`, gives the
arguments, and any other content leaves a use without arguments. -/
inductive MacroCode (phrases : Phrases) (content tokens : List Token) : Code → Prop
  | list {arguments : List (Operand × List Token)}
      (hlist : commaList phrases.expression content = some (arguments, [])) :
      MacroCode phrases content tokens (.macroUse (some (arguments.map (·.1.code))) tokens)
  | repetition {parts : List Code}
      (hlist : ∀ arguments, commaList phrases.expression content ≠ some (arguments, []))
      (hrepetition : repetition phrases content = some (parts, [])) :
      MacroCode phrases content tokens (.macroUse (some parts) tokens)
  | neither (hlist : ∀ arguments, commaList phrases.expression content ≠ some (arguments, []))
      (hrepetition : ∀ parts, repetition phrases content ≠ some (parts, [])) :
      MacroCode phrases content tokens (.macroUse none tokens)

theorem macroCode_macroArguments? :
    MacroCode phrases content tokens (.macroUse (macroArguments? phrases content) tokens) := by
  rw [macroArguments?]
  split
  · next arguments hlist => exact .list hlist
  · next hlist =>
      split
      · next parts hrepetition => exact .repetition hlist hrepetition
      · next hrepetition => exact .neither hlist hrepetition

theorem exists_of_bind {α β : Type} {parser : Parser α} {next : α → Parser β} {value : β}
    {rest : List Token} (hbind : (parser >>= next) tokens = some (value, rest)) :
    ∃ first behind, parser tokens = some (first, behind) ∧
      next first behind = some (value, rest) := by
  obtain ⟨⟨first, behind⟩, hfirst, hnext⟩ := Option.bind_eq_some_iff.mp hbind
  exact ⟨first, behind, hfirst, hnext⟩

theorem exists_mark_of_operator {marks rest : List Token}
    (hoperator : operator "!" tokens = some (marks, rest)) :
    ∃ joined, tokens = .mark '!' joined :: rest := by
  obtain ⟨taken, htaken, hread⟩ := Option.map_eq_some_iff.mp hoperator
  change (if Ahead.isMarks ['!'] tokens then some (Token.marks ['!'], 1) else none) =
    some taken at htaken
  obtain ⟨hmarks, ⟨⟩⟩ := Option.ite_none_right_eq_some.mp htaken
  match tokens, hmarks with
  | .mark found joined :: behind, hmarks =>
      obtain rfl : '!' = found := by
        simpa [Ahead.isMarks] using hmarks
      cases hread
      exact ⟨joined, rfl⟩

theorem eq_group_of_rawGroup {delimiter : Delimiter} {rest : List Token}
    (hgroup : rawGroup tokens = some ((delimiter, content), rest)) :
    tokens = .group delimiter content :: rest := by
  match tokens with
  | .group found inner :: behind =>
      cases hgroup
      rfl

/-- What is read as a macro use has its code by the content of the group behind the mark. -/
theorem macroCode_of_macroUse {path : PathOperand} {use : Operand} {rest : List Token}
    (huse : macroUse phrases path tokens = some (use, rest)) :
    ∃ joined delimiter content, tokens = .mark '!' joined :: .group delimiter content :: rest ∧
      MacroCode phrases content use.tokens use.code := by
  obtain ⟨bang, behind, hbang, huse⟩ := exists_of_bind huse
  obtain ⟨⟨delimiter, content⟩, last, hgroup, huse⟩ := exists_of_bind huse
  obtain ⟨joined, rfl⟩ := exists_mark_of_operator hbang
  obtain rfl := eq_group_of_rawGroup hgroup
  cases huse
  exact ⟨joined, delimiter, content, rfl, macroCode_macroArguments?⟩

end Source.Grammar

/-! ## Calls of a function -/

namespace SymbolIndex

variable {index : SymbolIndex} {function : DeclaredFunction} {caller : FunctionId}

/-- A function has a list of callees only if each of its sites stands for one of them. -/
theorem exists_callee_of_site {callees : List FunctionId} {site : CallSite}
    (hcallees : (index.declarationOf function).callees caller = .ok callees)
    (hsite : site ∈ function.sites) :
    ∃ callee ∈ callees, index.callee? function.scope site.target = some callee := by
  have hcall : ⟨site.text, index.callee? function.scope site.target⟩ ∈
      (index.declarationOf function).calls :=
    List.mem_map_of_mem hsite
  rcases Call.calleesAfter_cases caller [] (index.declarationOf function).calls with
    ⟨_, _, hresolve⟩ | ⟨_, herror, _⟩
  · obtain ⟨callee, hcallee⟩ := Option.isSome_iff_exists.mp (hresolve _ hcall)
    have hmem := (Call.mem_calleesAfter hcallees callee).mpr (Or.inr ⟨_, hcall, hcallee⟩)
    exact ⟨callee, hmem, hcallee⟩
  · rw [Declaration.callees, herror] at hcallees
    contradiction

/-- A site that stands for nothing leaves the function without callees. -/
theorem exists_unresolvedCall {site : CallSite} (hsite : site ∈ function.sites)
    (hnone : index.callee? function.scope site.target = none) :
    ∃ text, (index.declarationOf function).callees caller =
      .error (.unresolvedCall caller text) := by
  rcases Call.calleesAfter_cases caller [] (index.declarationOf function).calls with
    ⟨callees, hok, _⟩ | ⟨call, herror, _⟩
  · obtain ⟨callee, _, hcallee⟩ := exists_callee_of_site hok hsite
    rw [hnone] at hcallee
    contradiction
  · exact ⟨call.text, herror⟩

theorem mem_sites_of_locates {function : Function} {located : List (List Nat × CallSite)}
    (hlocates : function.Locates located) {position : List Nat} {site : CallSite}
    (hsite : (position, site) ∈ located) (path : String) (scope : Scope) :
    site ∈ (DeclaredFunction.ofFunction path scope function).sites := by
  change site ∈ function.callSites
  rw [hlocates.sites_eq]
  exact List.mem_append_right _ (List.mem_map_of_mem hsite)

/-- Behind the sites in its parameters, a function has exactly one site for each call in its body,
in the order of their positions: an outer call before those in its parts, and the calls in a part
before those in later parts.  With a list of callees each site stands for one of them.  A macro use
counts as a call where its content is neither a list of expressions nor `value; count`. -/
theorem sites_of_body (function : Function) :
    ∃ located, function.Locates located ∧
      (∀ other, function.Locates other → other = located) ∧
      (∀ (index : SymbolIndex) path scope caller callees,
        (index.declarationOf (.ofFunction path scope function)).callees caller = .ok callees →
          ∀ position site, (position, site) ∈ located →
            ∃ callee ∈ callees, index.callee? scope site.target = some callee) ∧
      ∀ phrases path tokens use rest, Source.Grammar.macroUse phrases path tokens =
        some (use, rest) → ∃ joined delimiter content,
          tokens = .mark '!' joined :: .group delimiter content :: rest ∧
            Source.Grammar.MacroCode phrases content use.tokens use.code := by
  obtain ⟨located, hlocates⟩ := function.exists_locates
  refine ⟨located, hlocates, fun other hother => hother.eq hlocates, ?_, ?_⟩
  · intro index path scope caller callees hcallees position site hsite
    exact exists_callee_of_site hcallees (mem_sites_of_locates hlocates hsite path scope)
  · intro phrases path tokens use rest huse
    exact Source.Grammar.macroCode_of_macroUse huse

/-- A call of a name that a pattern binds stands for no function of any index, and a function with
such a call has no list of callees. -/
theorem callee?_of_boundAt {function : Function} {located : List (List Nat × CallSite)}
    (hlocates : function.Locates located) {position : List Nat} {site : CallSite}
    (hsite : (position, site) ∈ located) {name : String} {tokens : List Token} {parts : List Code}
    (hcall : function.body.at? position = some (.call (some [name]) tokens parts))
    (hbound : function.BoundAt name position) :
    site.target = .unsupported ∧
      (∀ (index : SymbolIndex) scope, index.callee? scope site.target = none) ∧
      ∀ (index : SymbolIndex) path scope caller, ∃ text,
        (index.declarationOf (.ofFunction path scope function)).callees caller =
          .error (.unresolvedCall caller text) := by
  have htarget := hlocates.target_of_boundAt hsite hcall hbound
  have hnone : ∀ (index : SymbolIndex) scope, index.callee? scope site.target = none := by
    intro index scope
    rw [htarget]
    rfl
  refine ⟨htarget, hnone, fun index path scope caller => ?_⟩
  exact exists_unresolvedCall (mem_sites_of_locates hlocates hsite path scope) (hnone index scope)

/-- The body is `let scale = |x| x; list![scale()]`. -/
def callsScale : Function where
  name := "shade"
  line := 1
  attributes := []
  parameters := []
  result := none
  tokens := []
  statements := [
    .letStatement (.binding "scale" []) [.closure [.binding "x" []] (.other [])],
    .macroUse (some [.call (some ["scale"]) [] []]) []]

theorem callsScale_unsupported :
    ∃ located site, callsScale.Locates located ∧ ([1, 0], site) ∈ located ∧
      callsScale.body.at? [1, 0] = some (.call (some ["scale"]) [] []) ∧
      callsScale.BoundAt "scale" [1, 0] ∧ site.target = .unsupported := by
  obtain ⟨located, hlocates⟩ := callsScale.exists_locates
  have hcall : callsScale.body.at? [1, 0] = some (.call (some ["scale"]) [] []) := rfl
  have hposition : [1, 0] ∈ located.map (·.1) :=
    (hlocates.mem_positions_iff [1, 0]).mpr ⟨_, hcall, rfl⟩
  obtain ⟨⟨_, site⟩, hsite, rfl⟩ := List.mem_map.mp hposition
  have hbound : callsScale.BoundAt "scale" [1, 0] :=
    Or.inr (.letStatement (Nat.zero_lt_one) rfl .binding)
  exact ⟨located, site, hlocates, hsite, hcall, hbound,
    (callee?_of_boundAt hlocates hsite hcall hbound).1⟩

/-- A function calls a name that a `box` pattern binds. -/
def callsBoxed : List SourceFile :=
  [⟨"shaders", "shaders.rs", "fn f() {} fn g(x: u8) { let box f = x; f(); }"⟩]

/-- The call is taken for one of the declared function. -/
theorem callsBoxed_finds_function :
    ((ofFiles callsBoxed).functions.map fun function => (function.id, function.sites.map fun site =>
      (site.target, (ofFiles callsBoxed).callee? function.scope site.target))) =
        [(⟨"shaders", "f"⟩, []),
          (⟨"shaders", "g"⟩, [(.path ["f"], some ⟨"shaders", "f"⟩)])] := by
  decide +kernel

end SymbolIndex

end ShaderCalls
