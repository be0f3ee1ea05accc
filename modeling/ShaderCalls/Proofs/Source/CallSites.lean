import Mathlib.Data.List.Induction
import Mathlib.Data.List.Lex
import Mathlib.Data.List.Sort
import ShaderCalls.Proofs.Lists
import ShaderCalls.Proofs.Source.Positions

/-!
# The sites of a body

The walk records a site at the position of each call and nothing at the other positions, and it
comes to the positions in lexicographic order: a call before its own parts, and a part before the
parts behind it.  The list of sites with their positions is built along the tree, one part after the
other, and the positions determine it.
-/

namespace ShaderCalls.Source

namespace Code

/-! ## Sites at positions -/

/-- The walk where it comes to a position of some code. -/
def walkAt (walk : Walk) (code : Code) : List Nat → Walk
  | [] => walk
  | index :: rest =>
    match code.children[index]? with
    | some child => child.walkAt (walkAll (code.entered walk) (code.children.take index)) rest
    | none => walk

/-- The site that the walk records at a position. -/
def siteAt? (walk : Walk) (code : Code) (position : List Nat) : Option CallSite :=
  (code.at? position).bind (·.site? (code.walkAt walk position).bound)

theorem siteAt?_nil (walk : Walk) (code : Code) :
    code.siteAt? walk [] = code.site? walk.bound := rfl

/-- A position inside some code is a position inside one of its parts. -/
theorem siteAt?_cons (walk : Walk) (code : Code) (index : Nat) (rest : List Nat) :
    code.siteAt? walk (index :: rest) = code.children[index]?.bind fun child =>
      child.siteAt? (walkAll (code.entered walk) (code.children.take index)) rest := by
  rw [siteAt?, at?, walkAt]
  cases code.children[index]? <;> rfl

theorem sites_left (code : Code) (bound : List String) (walk : Walk) :
    (code.left bound walk).sites = walk.sites := by
  cases code <;> rfl

/-- The list holds the sites that the walk records in some code, each with its position, in the
order of the positions. -/
structure Located (code : Code) (walk : Walk) (located : List (List Nat × CallSite)) : Prop where
  sites_eq : (code.walk walk).sites = (located.map (·.2)).reverse ++ walk.sites
  ascending : (located.map (·.1)).Pairwise (· < ·)
  mem_iff : ∀ position site, (position, site) ∈ located ↔ code.siteAt? walk position = some site

/-- The last of several pieces of code has the highest number. -/
theorem siteAt?_other_concat (walk : Walk) (codes : List Code) (last : Code) (position : List Nat)
    (site : CallSite) :
    (Code.other (codes ++ [last])).siteAt? walk position = some site ↔
      (Code.other codes).siteAt? walk position = some site ∨
        ∃ rest, position = codes.length :: rest ∧
          last.siteAt? (walkAll walk codes) rest = some site := by
  cases position with
  | nil => simp [siteAt?_nil, site?]
  | cons index rest =>
      rw [siteAt?_cons, siteAt?_cons]
      change ((codes ++ [last])[index]?.bind fun child => child.siteAt?
        (walkAll walk ((codes ++ [last]).take index)) rest) = some site ↔
          (codes[index]?.bind fun child => child.siteAt?
            (walkAll walk (codes.take index)) rest) = some site ∨ _
      rcases Nat.lt_trichotomy index codes.length with hbefore | rfl | hbehind
      · rw [List.getElem?_append_left hbefore, List.take_append_of_le_length (Nat.le_of_lt hbefore)]
        simp [Nat.ne_of_lt hbefore]
      · simp
      · have hlast : (codes ++ [last])[index]? = none := by
          rw [List.getElem?_eq_none_iff, List.length_append]
          exact hbehind
        rw [hlast, List.getElem?_eq_none (Nat.le_of_lt hbehind)]
        simp [Nat.ne_of_gt hbehind]

theorem exists_cons_of_siteAt?_other {walk : Walk} {codes : List Code} {position : List Nat}
    {site : CallSite} (hsite : (Code.other codes).siteAt? walk position = some site) :
    ∃ index rest, position = index :: rest ∧ index < codes.length := by
  cases position with
  | nil => simp [siteAt?_nil, site?] at hsite
  | cons index rest =>
      rw [siteAt?_cons, Option.bind_eq_some_iff] at hsite
      obtain ⟨child, hchild, _⟩ := hsite
      obtain ⟨hlt, _⟩ := List.getElem?_eq_some_iff.mp hchild
      exact ⟨index, rest, rfl, hlt⟩

/-- One more piece of code behind others: the positions in it begin with its number. -/
theorem Located.concat {codes : List Code} {last : Code} {walk : Walk}
    {before behind : List (List Nat × CallSite)} (hbefore : (Code.other codes).Located walk before)
    (hbehind : last.Located (walkAll walk codes) behind) :
    (Code.other (codes ++ [last])).Located walk
      (before ++ behind.map fun entry => (codes.length :: entry.1, entry.2)) where
  sites_eq := by
    have hsites : (walkAll walk codes).sites = (before.map (·.2)).reverse ++ walk.sites :=
      hbefore.sites_eq
    change (walkAll walk (codes ++ [last])).sites = _
    rw [walkAll_append]
    change (last.walk (walkAll walk codes)).sites = _
    rw [hbehind.sites_eq, hsites]
    simp [Function.comp_def]
  ascending := by
    apply pairwise_append_numbered hbefore.ascending hbehind.ascending
    intro entry hentry
    exact exists_cons_of_siteAt?_other ((hbefore.mem_iff _ _).mp hentry)
  mem_iff := by
    intro position site
    rw [siteAt?_other_concat, ← hbefore.mem_iff, List.mem_append, List.mem_map]
    simp only [← hbehind.mem_iff]
    grind

theorem exists_located_other {codes : List Code}
    (hcodes : ∀ code ∈ codes, ∀ walk, ∃ located, code.Located walk located) (walk : Walk) :
    ∃ located, (Code.other codes).Located walk located := by
  -- From the right: the number of the last piece is the number of pieces before it.
  induction codes using List.reverseRecOn with
  | nil =>
      refine ⟨[], rfl, .nil, fun position site => ?_⟩
      cases position <;> simp [siteAt?_nil, siteAt?_cons, site?, children]
  | append_singleton codes last ih =>
      obtain ⟨before, hbefore⟩ := ih fun code hcode => hcodes code (by simp [hcode])
      obtain ⟨behind, hbehind⟩ := hcodes last (by simp) (walkAll walk codes)
      exact ⟨_, hbefore.concat hbehind⟩

/-- The code around its parts: its own site comes first, at the empty position. -/
theorem Located.around {code : Code} {walk : Walk} {inside : List (List Nat × CallSite)}
    (hinside : (Code.other code.children).Located (code.entered walk) inside) :
    code.Located walk ((code.site? walk.bound).toList.map (([], ·)) ++ inside) where
  sites_eq := by
    have hsites : (walkAll (code.entered walk) code.children).sites =
        (inside.map (·.2)).reverse ++ (code.entered walk).sites := hinside.sites_eq
    rw [walk_eq, sites_left, hsites]
    cases hsite : code.site? walk.bound <;> simp [entered, hsite]
  ascending := by
    rw [List.map_append, List.pairwise_append]
    refine ⟨?_, hinside.ascending, ?_⟩
    · cases code.site? walk.bound <;> simp
    · intro position hposition other hother
      obtain ⟨⟨_, site⟩, hentry, rfl⟩ := List.mem_map.mp hother
      obtain ⟨index, rest, rfl, _⟩ :=
        exists_cons_of_siteAt?_other ((hinside.mem_iff _ _).mp hentry)
      obtain rfl : position = [] := by grind
      exact List.nil_lt_cons index rest
  mem_iff := by
    intro position site
    cases position with
    | nil =>
        have houter : ([], site) ∉ inside := fun hmem => by
          simp [hinside.mem_iff, siteAt?_nil, site?] at hmem
        rw [siteAt?_nil]
        grind
    | cons index rest =>
        have hsame : (Code.other code.children).siteAt? (code.entered walk) (index :: rest) =
            code.siteAt? walk (index :: rest) := by
          rw [siteAt?_cons, siteAt?_cons]
          rfl
        rw [List.mem_append, hinside.mem_iff, hsame]
        simp

theorem exists_located (code : Code) (walk : Walk) : ∃ located, code.Located walk located := by
  induction code using inductionOnChildren generalizing walk with
  | step code ih =>
      obtain ⟨inside, hinside⟩ := exists_located_other ih (code.entered walk)
      exact ⟨_, hinside.around⟩

/-! ## Calls -/

/-- Whether some code is a call, or a macro use that is recorded like one. -/
def isCall : Code → Bool
  | .call .. => true
  | .method .. => true
  | .macroUse none _ => true
  | _ => false

/-- What a call is recorded as.  The call of a single name may be recorded as that of a value. -/
inductive RecordedAs : Code → CallSite → Prop
  | path {segments : List String} {tokens : List Token} {parts : List Code} :
      RecordedAs (.call (some segments) tokens parts) ⟨.path segments, Token.render tokens⟩
  | value {name : String} {tokens : List Token} {parts : List Code} :
      RecordedAs (.call (some [name]) tokens parts) ⟨.unsupported, Token.render tokens⟩
  | noPath {tokens : List Token} {parts : List Code} :
      RecordedAs (.call none tokens parts) ⟨.unsupported, Token.render tokens⟩
  | selfMethod {name : String} {tokens : List Token} {parts : List Code} :
      RecordedAs (.method true name tokens parts) ⟨.selfMethod name, Token.render tokens⟩
  | method {name : String} {tokens : List Token} {parts : List Code} :
      RecordedAs (.method false name tokens parts) ⟨.method name, Token.render tokens⟩
  | macroUse {tokens : List Token} :
      RecordedAs (.macroUse none tokens) ⟨.unsupported, Token.render tokens⟩

theorem isSome_site? (code : Code) (bound : List String) :
    (code.site? bound).isSome = code.isCall := by
  fun_cases isCall code <;> simp_all [site?]

theorem recordedAs_of_site? {code : Code} {bound : List String} {site : CallSite}
    (hsite : code.site? bound = some site) : code.RecordedAs site := by
  fun_cases site? bound code with
  | case1 callee tokens parts =>
      cases hsite
      match callee with
      | none => exact .noPath
      | some [] => exact .path
      | some [name] =>
          rw [Walk.targetOf]
          split
          · exact .value
          · exact .path
      | some (_ :: _ :: _) => exact .path
  | case2 onSelf name tokens parts =>
      cases hsite
      cases onSelf
      · exact .method
      · exact .selfMethod
  | case3 tokens =>
      cases hsite
      exact .macroUse
  | case4 => simp_all [site?]

theorem exists_siteAt?_iff (walk : Walk) (code : Code) (position : List Nat) :
    (∃ site, code.siteAt? walk position = some site) ↔
      ∃ part, code.at? position = some part ∧ part.isCall := by
  simp only [← isSome_site? _ (code.walkAt walk position).bound, siteAt?, Option.bind_eq_some_iff,
    Option.isSome_iff_exists]
  grind

end Code

/-! ## Functions -/

namespace Function

variable (function : Function)

/-- The body of a function as one block. -/
def body : Code :=
  .block function.statements

/-- The walk behind the parameters. -/
def parameterWalk : Walk :=
  walkAll ⟨[], []⟩ (function.parameters.map (·.pattern))

/-- The list holds the sites of a function behind those in its parameters, each with the position of
its call in the body. -/
structure Locates (located : List (List Nat × CallSite)) : Prop where
  sites_eq : function.callSites = function.parameterWalk.sites.reverse ++ located.map (·.2)
  ascending : (located.map (·.1)).Pairwise (· < ·)
  mem_positions_iff : ∀ position, position ∈ located.map (·.1) ↔
    ∃ part, function.body.at? position = some part ∧ part.isCall
  recorded : ∀ position site, (position, site) ∈ located →
    ∃ part, function.body.at? position = some part ∧ part.RecordedAs site

variable {function}

theorem locates_of_located {located : List (List Nat × CallSite)}
    (hlocated : function.body.Located function.parameterWalk located) :
    function.Locates located where
  sites_eq := by
    rw [callSites]
    change (function.body.walk function.parameterWalk).sites.reverse = _
    rw [hlocated.sites_eq]
    simp
  ascending := hlocated.ascending
  mem_positions_iff position := by
    rw [← Code.exists_siteAt?_iff function.parameterWalk]
    simp [hlocated.mem_iff]
  recorded position site hmem := by
    obtain ⟨part, hpart, hsite⟩ := Option.bind_eq_some_iff.mp ((hlocated.mem_iff _ _).mp hmem)
    exact ⟨part, hpart, Code.recordedAs_of_site? hsite⟩

/-- The call at a position has its site. -/
theorem Locates.exists_site {located : List (List Nat × CallSite)}
    (hlocates : function.Locates located) {position : List Nat} {part : Code}
    (hpart : function.body.at? position = some part) (hcall : part.isCall) :
    ∃ site, (position, site) ∈ located := by
  have hposition : position ∈ located.map (·.1) :=
    (hlocates.mem_positions_iff position).mpr ⟨part, hpart, hcall⟩
  obtain ⟨⟨_, site⟩, hsite, rfl⟩ := List.mem_map.mp hposition
  exact ⟨site, hsite⟩

/-- The positions of the calls leave no choice for the list. -/
theorem Locates.eq {left right : List (List Nat × CallSite)} (hleft : function.Locates left)
    (hright : function.Locates right) : left = right := by
  have hpositions : left.map (·.1) = right.map (·.1) := by
    apply hleft.ascending.eq_of_mem_iff hright.ascending
    intro position
    rw [hleft.mem_positions_iff, hright.mem_positions_iff]
  have hsites : left.map (·.2) = right.map (·.2) :=
    List.append_cancel_left (hleft.sites_eq.symm.trans hright.sites_eq)
  rw [List.zip_of_prod hpositions hsites]
  exact (List.zip_of_prod rfl rfl).symm

theorem exists_locates (function : Function) : ∃ located, function.Locates located := by
  obtain ⟨located, hlocated⟩ := function.body.exists_located function.parameterWalk
  exact ⟨located, locates_of_located hlocated⟩

theorem Locates.located {located : List (List Nat × CallSite)}
    (hlocates : function.Locates located) :
    function.body.Located function.parameterWalk located := by
  obtain ⟨other, hother⟩ := function.body.exists_located function.parameterWalk
  rw [hlocates.eq (locates_of_located hother)]
  exact hother

end Function

end ShaderCalls.Source
