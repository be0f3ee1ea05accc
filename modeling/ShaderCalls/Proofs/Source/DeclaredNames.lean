import ShaderCalls.Proofs.Lists
import ShaderCalls.Proofs.Source.Words
import ShaderCalls.Source.File

/-!
# The names in items

An item is declared under one of the words of its file, wherever it stands: the rules of the grammar
take the name of a function from the word behind `fn`, and everything that is read before that word
leaves tokens whose words were there from the start.  The same goes for the names of modules and
types, the paths of imports and the paths of the types that have methods.  As the words of a text
are identifiers, so are these names.
-/

namespace ShaderCalls.Source

/-! ## What a parser gives -/

namespace Parser

variable {α β : Type} {good : String → Prop}

/-- On tokens whose words are all good, a parser gives values of one kind only. -/
def Gives (good : String → Prop) (parser : Parser α) (kind : α → Prop) : Prop :=
  ∀ tokens value rest, Token.AllWords good tokens → parser tokens = some (value, rest) → kind value

namespace Gives

variable {parser : Parser α} {next : α → Parser β} {kind : β → Prop}

theorem pure {value : β} (hvalue : kind value) : Gives good (pure value) kind := by
  rintro tokens _ _ _ ⟨⟩
  exact hvalue

theorem taking {read : List Token → Option (β × Nat)}
    (hread : ∀ tokens value count, Token.AllWords good tokens →
      read tokens = some (value, count) → kind value) : Gives good (taking read) kind := by
  intro tokens value rest hwords hrun
  obtain ⟨⟨value, count⟩, htaken, ⟨⟩⟩ := Option.map_eq_some_iff.mp hrun
  exact hread tokens value count hwords htaken

theorem refuse : Gives good Parser.refuse kind :=
  taking nofun

/-- The second parser reads what the first one leaves, which has good words like all that was
given. -/
theorem bind {middle : α → Prop} (hparser : Gives good parser middle)
    (hnext : ∀ value, middle value → Gives good (next value) kind) :
    Gives good (parser >>= next) kind := by
  intro tokens value rest hwords hrun
  obtain ⟨⟨first, behind⟩, hfirst, hbehind⟩ := Option.bind_eq_some_iff.mp hrun
  apply hnext first (hparser tokens first behind hwords hfirst) behind value rest
  · exact hwords.suffix (parser.isSuffix hfirst)
  · exact hbehind

/-- Whatever the first parser gives does not matter. -/
theorem skip (hnext : ∀ value, Gives good (next value) kind) :
    Gives good (parser >>= next) kind :=
  bind (fun _ _ _ _ _ => trivial) fun value _ => hnext value

theorem map {function : α → β} {middle : α → Prop} (hparser : Gives good parser middle)
    (hfunction : ∀ value, middle value → kind (function value)) :
    Gives good (function <$> parser) kind :=
  bind hparser fun value hvalue => pure (hfunction value hvalue)

theorem ite {condition : Prop} [Decidable condition] {first second : Parser β}
    (hfirst : Gives good first kind) (hsecond : Gives good second kind) :
    Gives good (if condition then first else second) kind := by
  split
  · exact hfirst
  · exact hsecond

theorem inside {delimiter : Delimiter} {parser : Parser β} (hparser : Gives good parser kind) :
    Gives good (inside delimiter parser) kind := by
  refine taking fun tokens value count hwords hread => ?_
  split at hread
  · next found content behind =>
      obtain ⟨_, hread⟩ := Option.ite_none_right_eq_some.mp hread
      split at hread
      · next hcontent =>
          cases hread
          exact hparser content value [] (Token.AllWords.group_iff.mp hwords).1 hcontent
      · contradiction
  · contradiction

/-- The states of a repetition keep an invariant, and its result is of the kind. -/
theorem loop {step : α → Parser (α ⊕ β)} {start : α} {invariant : α → Prop}
    (hstep : ∀ state, invariant state → Gives good (step state) (Sum.elim invariant kind))
    (hstart : invariant start) : Gives good (loop step start) kind := by
  have hiterate : ∀ fuel state, invariant state → Gives good (iterate step fuel state) kind := by
    intro fuel
    induction fuel with
    | zero => exact fun _ _ => refuse
    | succ fuel ih =>
        intro state hstate
        refine bind (hstep state hstate) fun result hresult => ?_
        cases result with
        | inl state => exact ih state hresult
        | inr result => exact pure hresult
  exact skip fun tokens => hiterate _ start hstart

theorem whileAhead {test : List Token → Bool} {parser : Parser α} {kind : α → Prop}
    (hparser : Gives good parser kind) :
    Gives good (whileAhead test parser) fun values => ∀ value ∈ values, kind value := by
  have hstep (values : List α) (hvalues : ∀ value ∈ values, kind value) :
      Gives good (do
        if ← peek test then Pure.pure (Sum.inl ((← parser) :: values))
        else Pure.pure (Sum.inr values.reverse))
      (Sum.elim (fun values => ∀ value ∈ values, kind value) fun values =>
        ∀ value ∈ values, kind value) := by
    refine skip fun isAhead => ite ?_ ?_
    · exact bind hparser fun value hvalue => pure (List.forall_mem_cons.mpr ⟨hvalue, hvalues⟩)
    · exact pure fun value hvalue => hvalues value (List.mem_reverse.mp hvalue)
  exact loop hstep (List.forall_mem_nil kind)

theorem untilEnd {parser : Parser α} {kind : α → Prop} (hparser : Gives good parser kind) :
    Gives good (untilEnd parser) fun values => ∀ value ∈ values, kind value :=
  whileAhead hparser

theorem anyWord :
    Gives good anyWord fun token => ∃ text line, token = .word text line ∧ good text := by
  refine taking fun tokens token count hwords hread => ?_
  split at hread
  · next text line behind =>
      cases hread
      exact ⟨text, line, rfl, hwords text List.mem_cons_self⟩
  · contradiction

theorem name : Gives good name fun token => ∃ text line, token = .word text line ∧ good text :=
  skip fun _ => skip fun _ => anyWord

theorem nameOrUnderscore :
    Gives good nameOrUnderscore fun token => ∃ text line, token = .word text line ∧ good text :=
  skip fun _ => ite anyWord name

end Gives

end Parser

/-! ## Names in items -/

/-- Every name in a `use` tree is good. -/
inductive UseTree.Names (good : String → Prop) : UseTree → Prop
  | path {segment : String} {rest : UseTree} (hsegment : good segment) (hrest : Names good rest) :
      Names good (.path segment rest)
  | name {name : String} (hname : good name) : Names good (.name name)
  | rename {name newName : String} (hname : good name) (hnewName : good newName) :
      Names good (.rename name newName)
  | glob : Names good .glob
  | group {trees : List UseTree} (htrees : ∀ tree ∈ trees, Names good tree) :
      Names good (.group trees)

/-- A path has at least one segment, and all its segments are good. -/
def IsPathOf (good : String → Prop) (path : List String) : Prop :=
  path ≠ [] ∧ ∀ segment ∈ path, good segment

theorem IsPathOf.append {good : String → Prop} {left right : List String}
    (hleft : IsPathOf good left) (hright : IsPathOf good right) : IsPathOf good (left ++ right) :=
  ⟨List.append_ne_nil_of_left_ne_nil hleft.1 right,
    List.forall_mem_append.mpr ⟨hleft.2, hright.2⟩⟩

theorem IsPathOf.concat {good : String → Prop} {above : List String} {last : String}
    (habove : ∀ segment ∈ above, good segment) (hlast : good last) :
    IsPathOf good (above ++ [last]) :=
  ⟨List.append_ne_nil_of_right_ne_nil above (List.cons_ne_nil last []),
    List.forall_mem_append.mpr ⟨habove, List.forall_mem_singleton.mpr hlast⟩⟩

/-- Every name that an item declares or imports, at any depth, is good, and so are the segments of
the types that it has methods of. -/
inductive Item.Names (good : String → Prop) : Item → Prop
  | function {declared : Function} (hname : good declared.name) : Names good (.function declared)
  | implementation {type : Option (List String)} {methods : List Function}
      (htype : ∀ path ∈ type, IsPathOf good path) (hnames : ∀ method ∈ methods, good method.name) :
      Names good (.implementation type methods)
  | use {tree : UseTree} (htree : tree.Names good) : Names good (.use tree)
  | type {name : String} (hname : good name) : Names good (.type name)
  | module {name : String} {items : List Item} (hname : good name)
      (hitems : ∀ item ∈ items, Names good item) : Names good (.module name (some items))
  | external {name : String} (hname : good name) : Names good (.module name none)
  | other : Names good .other

namespace Grammar

open ShaderCalls.Source.Parser (Gives operator whileAhead)

variable {good : String → Prop} {phrases : Phrases}

/-- An item, if one is declared, has good names. -/
def NamesOf (good : String → Prop) (item : Option ItemOperand) : Prop :=
  ∀ operand ∈ item, operand.item.Names good

theorem NamesOf.some {operand : ItemOperand} (hnames : operand.item.Names good) :
    NamesOf good (some operand) := by
  rintro _ ⟨⟩
  exact hnames

/-! ### Paths and types -/

theorem gives_segment (inExpression : Bool) :
    Gives good (segment phrases inExpression) fun read => good read.1.name := by
  unfold segment
  refine .skip fun isPathWord => .ite (.bind .anyWord fun word hword => .pure ?_) ?_
  · obtain ⟨text, line, rfl, hgood⟩ := hword
    exact hgood
  · refine .skip fun isSelf => ?_
    extract_lets afterWord
    have hafterWord : ∀ word, (∃ text line, word = .word text line ∧ good text) →
        Gives good (afterWord word) fun read => good read.1.name := by
      rintro _ ⟨text, line, rfl, hgood⟩
      exact .skip fun tokens => .ite (.skip fun arguments => .pure hgood) (.pure hgood)
    exact .ite (.bind .anyWord hafterWord) (.bind .name hafterWord)

/-- The segments behind the first one. -/
theorem gives_furtherSegments (test : List Token → Bool) (inExpression : Bool) :
    Gives good (whileAhead test do
      let colons ← operator "::"
      let (segment, piece) ← segment phrases inExpression
      pure (segment, Piece.ofTokens colons ++ piece)) fun more =>
        ∀ read ∈ more, good read.1.name :=
  .whileAhead (.skip fun _ => .bind (gives_segment inExpression) fun (_, _) hname => .pure hname)

theorem isPathOf_pathOfSegments {root : List Token} {first : Segment × Piece}
    {more : List (Segment × Piece)} (hfirst : good first.1.name)
    (hmore : ∀ read ∈ more, good read.1.name) :
    IsPathOf good (pathOfSegments root (first :: more)).names := by
  have hall : ∀ read ∈ first :: more, good read.1.name :=
    List.forall_mem_cons.mpr ⟨hfirst, hmore⟩
  refine ⟨List.cons_ne_nil _ _, fun name hname => ?_⟩
  obtain ⟨segment, hsegment, rfl⟩ := List.mem_map.mp hname
  obtain ⟨read, hread, rfl⟩ := List.mem_map.mp hsegment
  exact hall read hread

theorem gives_path (inExpression : Bool) :
    Gives good (path phrases inExpression) (IsPathOf good ·.names) :=
  .skip fun _ => .bind (gives_segment inExpression) fun _ hfirst =>
    .bind (gives_furtherSegments _ inExpression) fun _ hmore =>
      .pure (isPathOf_pathOfSegments hfirst hmore)

theorem gives_qualifiedPath (inExpression : Bool) :
    Gives good (qualifiedPath phrases inExpression) (IsPathOf good ·.2.names) := by
  unfold qualifiedPath
  refine .skip fun isQualified => .ite ?_ ?_
  · refine .skip fun less => .skip fun type => .skip fun isTrait => ?_
    extract_lets afterTrait
    have hafterTrait : ∀ read : List Token × Option PathOperand,
        (∀ trait, read.2 = some trait → IsPathOf good trait.names) →
          Gives good (afterTrait read) (IsPathOf good ·.2.names) := by
      intro (asWord, trait) htrait
      refine .skip fun greater => .skip fun colons => ?_
      refine .bind (gives_segment inExpression) fun first hfirst => ?_
      refine .bind (gives_furtherSegments _ inExpression) fun more hmore => .pure ?_
      have hrest : IsPathOf good (pathOfSegments colons (first :: more)).names :=
        isPathOf_pathOfSegments hfirst hmore
      cases trait with
      | none => exact hrest
      | some trait =>
          rw [PathOperand.names, List.map_append]
          exact (htrait trait rfl).append hrest
    refine .ite (.skip fun asWord => .bind (gives_path false) fun trait htrait => ?_) ?_
    · exact .bind (.pure fun _ hsome => Option.some.inj hsome ▸ htrait) hafterTrait
    · exact .bind (.pure nofun) hafterTrait
  · exact .bind (gives_path inExpression) fun _ hpath => .pure hpath

/-- The segments of the path that a type is, if it is one, are good. -/
def FormOf (good : String → Prop) : TypeForm → Prop
  | .path path => IsPathOf good path.names
  | .qualifiedPath names => IsPathOf good names
  | _ => True

theorem FormOf.path {form : TypeForm} (hform : FormOf good form) {path : PathOperand}
    (hkind : form = .path path) : IsPathOf good path.names := by
  rw [hkind] at hform
  exact hform

theorem FormOf.qualifiedPath {form : TypeForm} (hform : FormOf good form) {names : List String}
    (hkind : form = .qualifiedPath names) : IsPathOf good names := by
  rw [hkind] at hform
  exact hform

theorem gives_pathType (plus : Bool) (lifetimes : Piece) :
    Gives good (pathType phrases plus lifetimes) (FormOf good ·.form) := by
  refine .bind (gives_qualifiedPath false) fun (qualifier, path) hpath => ?_
  cases qualifier with
  | some qualifier => exact .pure hpath
  | none =>
      refine .skip fun isMacro => .ite (.skip fun _ => .pure trivial) (.skip fun isSum => ?_)
      exact .ite (.skip fun (_, _) => .pure trivial) (.pure hpath)

theorem gives_parenthesizedType (plus : Bool) :
    Gives good (parenthesizedType phrases plus) (FormOf good ·.form) := by
  refine .skip fun content => ?_
  cases content with
  | tuple content =>
      refine .pure ?_
      cases content.tokens <;> trivial
  | bound content => exact .skip fun (_, _) => .pure trivial
  | single type => exact .skip fun _ => .ite (.skip fun (_, _) => .pure trivial) (.pure trivial)

/-- Only a type that begins with a path is one, so the types inside it do not matter. -/
theorem gives_type (plus : Bool) : Gives good (type phrases plus) (FormOf good ·.form) := by
  unfold type
  refine .skip fun lifetimes => ?_
  extract_lets afterLifetimes
  have hafterLifetimes : Gives good (afterLifetimes ()) (FormOf good ·.form) := by
    refine .skip fun tokens => .ite (gives_parenthesizedType plus) ?_
    refine .ite (.skip fun _ => .pure trivial) (.ite (gives_pathType plus lifetimes) ?_)
    refine .ite (.skip fun _ => .pure trivial) (.ite (.skip fun _ => .pure trivial) ?_)
    refine .ite (.skip fun star => .skip fun isConstant => ?_) ?_
    · exact .ite (.skip fun _ => .skip fun _ => .pure trivial)
        (.skip fun _ => .skip fun _ => .pure trivial)
    refine .ite (.skip fun _ => .skip fun _ => .skip fun _ => .skip fun _ => .pure trivial) ?_
    refine .ite (.skip fun _ => .pure trivial) ?_
    refine .ite (.skip fun _ => .skip fun _ => .pure trivial) ?_
    exact .ite (.skip fun _ => .pure trivial) (.ite (.skip fun _ => .pure trivial) .refuse)
  exact .ite (.skip fun _ => .skip fun _ => hafterLifetimes) hafterLifetimes

/-! ### Imports -/

/-- The tree of a `use` declaration, unless it is kept as it stands, has good names. -/
def TreeOf (good : String → Prop) (operand : UseOperand) : Prop :=
  ∀ tree, operand.tree = some tree → tree.Names good

/-- Parsers for the phrases that items name things in give good names. -/
structure GoodNames (good : String → Prop) (phrases : Phrases) : Prop where
  type : ∀ plus, Gives good (phrases.type plus) (FormOf good ·.form)
  useTree : ∀ rooted, Gives good (phrases.useTree rooted) (TreeOf good)
  item : Gives good phrases.item (·.item.Names good)

theorem gives_useGroup (hphrases : GoodNames good phrases) (rooted : Bool) :
    Gives good (useGroup phrases rooted) (TreeOf good) := by
  unfold useGroup
  extract_lets step
  let AllGood (trees : List (UseOperand × List Token)) : Prop := ∀ read ∈ trees, TreeOf good read.1
  have hstep : ∀ trees, AllGood trees → Gives good (step trees) (Sum.elim AllGood AllGood) := by
    refine fun trees htrees => .skip fun isEnd => .ite (.pure htrees) ?_
    extract_lets afterRoot
    have hafterRoot : ∀ root, Gives good (afterRoot root) (Sum.elim AllGood AllGood) := by
      refine fun root => .bind (hphrases.useTree _) fun tree htree => ?_
      have hadded : ∀ comma, AllGood (trees ++
          [(⟨root ++ tree.tokens, if root.isEmpty then tree.tree else none⟩, comma)]) := by
        refine fun comma => List.forall_mem_append.mpr ⟨htrees, List.forall_mem_singleton.mpr ?_⟩
        intro inner hinner
        exact htree inner (Option.ite_none_right_eq_some.mp hinner).2
      exact .skip fun isEnd => .ite (.pure (hadded [])) (.skip fun comma => .pure (hadded comma))
    exact .ite (.skip hafterRoot) (.skip hafterRoot)
  have hgroup : Gives good (Parser.inside .brace (Parser.loop step [])) AllGood :=
    .inside (.loop hstep nofun)
  refine .bind hgroup fun trees htrees => .pure fun tree htree => ?_
  obtain ⟨group, hgroup, rfl⟩ := Option.map_eq_some_iff.mp htree
  refine .group fun inner hinner => ?_
  obtain ⟨read, hread, hinner⟩ := exists_of_mem_mapM_some hgroup hinner
  exact htrees read hread inner hinner

theorem gives_useTree (hphrases : GoodNames good phrases) (rooted : Bool) :
    Gives good (useTree phrases rooted) (TreeOf good) := by
  refine .skip fun tokens => .ite (.bind .anyWord fun word hword => ?_) ?_
  · obtain ⟨text, line, rfl, hgood⟩ := hword
    refine .skip fun isPath => .ite (.skip fun _ => ?_) (.skip fun isRenamed => .ite ?_ ?_)
    · refine .bind (hphrases.useTree false) fun rest hrest => .pure fun tree htree => ?_
      obtain ⟨inner, hinner, rfl⟩ := Option.map_eq_some_iff.mp htree
      exact .path hgood (hrest inner hinner)
    · refine .skip fun asWord => .bind .nameOrUnderscore fun word hword => .pure ?_
      obtain ⟨newName, _, rfl, hnewName⟩ := hword
      rintro _ ⟨⟩
      exact .rename hgood hnewName
    · refine .pure ?_
      rintro _ ⟨⟩
      exact .name hgood
  · refine .ite (.skip fun _ => .pure ?_) (gives_useGroup hphrases rooted)
    rintro _ ⟨⟩
    exact .glob

/-! ### Items -/

theorem gives_signature (safe : Bool) :
    Gives good (signature phrases safe) fun signature => good signature.name := by
  unfold signature
  refine .skip fun constWord => .skip fun asyncWord => .skip fun unsafeWord => ?_
  extract_lets afterSafe
  have hafterSafe : ∀ safeWord, Gives good (afterSafe safeWord) (good ·.name) := by
    intro safeWord
    refine .skip fun interface => .skip fun fnWord => .bind .name fun nameWord hname => ?_
    obtain ⟨text, line, rfl, hgood⟩ := hname
    refine .skip fun (_, generics) => .skip fun (parameters, inputs) => .skip fun hasResult => ?_
    extract_lets afterResult
    have hafterResult : ∀ result, Gives good (afterResult result) (good ·.name) :=
      fun (result, output) => .skip fun (_, conditions) => .pure hgood
    exact .ite (.skip fun arrow => .skip fun type => .skip hafterResult) (.skip hafterResult)
  exact .ite (.skip hafterSafe) (.skip hafterSafe)

theorem gives_functionBody {attributes : List Attribute} {signature : SignatureOperand}
    (hname : good signature.name) :
    Gives good (functionBody phrases attributes signature) (good ·.1.name) :=
  .skip fun (_, _) => .pure hname

theorem gives_functionItem (attributes : List Attribute) :
    Gives good (functionItem phrases attributes) (NamesOf good) := by
  refine .bind (gives_signature false) fun signature hname => .skip fun isDeclaration => ?_
  refine .ite (.skip fun _ => .pure nofun) ?_
  exact .bind (gives_functionBody hname) fun (declared, tokens) hname =>
    .pure (.some (.function hname))

theorem gives_members {α : Type} {member : Parser α} {kind : α → Prop}
    (hmember : Gives good member kind) :
    Gives good (members phrases member) fun read => ∀ value ∈ read.2, kind value :=
  .inside (.skip fun _ => .bind hmember.untilEnd fun _ hvalues => .pure hvalues)

theorem gives_moduleItem (hphrases : GoodNames good phrases) :
    Gives good (moduleItem phrases) (·.item.Names good) := by
  unfold moduleItem
  refine .skip fun unsafeWord => .skip fun modWord => .skip fun isTry => ?_
  extract_lets afterName
  have hafterName : ∀ name, (∃ text line, name = .word text line ∧ good text) →
      Gives good (afterName name) (·.item.Names good) := by
    rintro _ ⟨text, line, rfl, hgood⟩
    refine .skip fun isExternal => .ite (.skip fun _ => .pure (.external hgood)) ?_
    refine .bind (gives_members hphrases.item) fun (attributes, items) hitems => .pure ?_
    refine .module hgood fun item hmem => ?_
    obtain ⟨operand, hoperand, rfl⟩ := List.mem_map.mp hmem
    exact hitems operand hoperand
  exact .ite (.bind .anyWord hafterName) (.bind .name hafterName)

theorem gives_implementationMember :
    Gives good (implementationMember phrases) fun read => ∀ declared ∈ read.1,
      good declared.name := by
  unfold implementationMember
  refine .skip fun start => .skip fun attributes => .skip fun visibility => ?_
  refine .skip fun isDefault => ?_
  extract_lets afterDefault
  have hafterDefault : ∀ defaultWord, Gives good (afterDefault defaultWord) fun read =>
      ∀ declared ∈ read.1, good declared.name := by
    intro defaultWord
    refine .skip fun tokens => ?_
    extract_lets head plain
    have hplain : ∀ member, Gives good (plain member) fun read =>
        ∀ declared ∈ read.1, good declared.name := by
      intro member
      cases member with
      | some tokens => exact .pure nofun
      | none => exact .skip fun _ => .pure nofun
    refine .ite (.bind (gives_functionItem _) fun item hitem => ?_) ?_
    · split
      · next declared =>
          refine .pure fun _ hdeclared => ?_
          cases hdeclared
          cases hitem _ rfl with
          | function hname => exact hname
      · exact hplain none
    · exact .ite (.skip hplain)
        (.ite (.skip hplain) (.skip fun _ => .skip fun _ => hplain (some _)))
  exact .ite (.skip hafterDefault) (.skip hafterDefault)

theorem gives_implementationItem (hphrases : GoodNames good phrases) (visible : Bool) :
    Gives good (implementationItem phrases visible) (NamesOf good) := by
  unfold implementationItem
  refine .skip fun defaultWord => .skip fun unsafeWord => .skip fun implWord => ?_
  refine .skip fun hasGenerics => ?_
  extract_lets afterGenerics
  have hafterGenerics : ∀ read, Gives good (afterGenerics read) (NamesOf good) := by
    intro (_, generics)
    refine .skip fun constant => ?_
    extract_lets afterConstant
    have hafterConstant : ∀ read, Gives good (afterConstant read) (NamesOf good) := by
      refine fun _ => .skip fun negative => ?_
      extract_lets afterPolarity
      have hafterPolarity : ∀ polarity, Gives good (afterPolarity polarity) (NamesOf good) := by
        refine fun polarity => .bind (hphrases.type true) fun first hfirst => ?_
        refine .skip fun isTraitFor => ?_
        extract_lets afterType
        have hafterType : ∀ read : List Token × Option TypeOperand × Bool,
            (∀ type, read.2.1 = some type → FormOf good type.form) →
              Gives good (afterType read) (NamesOf good) := by
          intro (forWord, implementing, isDeclared) himplementing
          refine .skip fun (_, conditions) => ?_
          refine .bind (gives_members gives_implementationMember) fun (_, declared) hnames => ?_
          refine .ite (.pure nofun) (.pure (.some (.implementation ?_ fun method hmethod => ?_)))
          · intro path hpath
            split at hpath
            · next type =>
                have hform := himplementing type rfl
                split at hpath
                · next hkind =>
                    cases hpath
                    exact hform.path hkind
                · next hkind =>
                    cases hpath
                    exact hform.qualifiedPath hkind
                · contradiction
            · next hkind =>
                obtain ⟨_, ⟨⟩⟩ := Option.ite_none_left_eq_some.mp hpath
                exact FormOf.path hfirst hkind
            · next hkind =>
                obtain ⟨_, ⟨⟩⟩ := Option.ite_none_left_eq_some.mp hpath
                exact FormOf.qualifiedPath hfirst hkind
            · contradiction
          · obtain ⟨member, hmember, hdeclared⟩ := List.mem_filterMap.mp hmethod
            exact hnames member hmember method hdeclared
        refine .ite (.skip fun _ => .bind (hphrases.type true) fun type hform => ?_) ?_
        · exact .bind (.pure fun _ hsome => Option.some.inj hsome ▸ hform) hafterType
        · exact .bind (.pure nofun) hafterType
      exact .ite (.skip hafterPolarity) (.skip hafterPolarity)
    exact .ite (.skip fun _ => .skip fun _ => hafterConstant ()) (hafterConstant ())
  exact .ite (.skip hafterGenerics) (.skip hafterGenerics)

/-- An item that declares no function of the index. -/
theorem gives_silent {parser : Parser (List Token)} :
    Gives good (silentItem <$> parser) (NamesOf good) :=
  .skip fun _ => .pure (.some .other)

theorem gives_useDeclaration (hphrases : GoodNames good phrases) :
    Gives good (useDeclaration phrases) (NamesOf good) := by
  refine .skip fun useWord => .skip fun root => .bind (hphrases.useTree _) fun tree htree => ?_
  refine .skip fun semicolon => .pure fun operand hoperand => ?_
  obtain ⟨declared, hdeclared, rfl⟩ := Option.map_eq_some_iff.mp hoperand
  exact .use (htree declared hdeclared)

theorem gives_structureItem : Gives good (structureItem phrases) (·.item.Names good) := by
  unfold structureItem
  refine .skip fun structWord => .bind .name fun name hname => .skip fun (_, generics) => ?_
  obtain ⟨text, line, rfl, hgood⟩ := hname
  refine .skip fun isTuple => .ite ?_ ?_
  · exact .skip fun fields => .skip fun (_, conditions) => .skip fun _ => .pure (.type hgood)
  · refine .skip fun (_, conditions) => .skip fun isBraced => ?_
    exact .ite (.skip fun _ => .pure (.type hgood)) (.skip fun _ => .pure (.type hgood))

theorem gives_enumerationItem : Gives good (enumerationItem phrases) (·.item.Names good) := by
  refine .skip fun enumWord => .bind .name fun name hname => ?_
  obtain ⟨text, line, rfl, hgood⟩ := hname
  exact .skip fun (_, _) => .skip fun (_, _) => .skip fun _ => .pure (.type hgood)

theorem gives_itemAfterVisibility (hphrases : GoodNames good phrases)
    (attributes : List Attribute) (visible : Bool) :
    Gives good (itemAfterVisibility phrases attributes visible) (NamesOf good) := by
  unfold itemAfterVisibility
  refine .skip fun tokens => ?_
  extract_lets next silent optional
  have hsilent : ∀ parser, Gives good (silent parser) (NamesOf good) := fun _ => gives_silent
  have hoptional : ∀ parser, Gives good (optional parser) (NamesOf good) := by
    refine fun parser => .skip fun tokens => .pure fun operand hoperand => ?_
    obtain ⟨_, _, rfl⟩ := Option.map_eq_some_iff.mp hoperand
    exact .other
  -- One branch for each form of an item, in the order of the rule.
  refine .ite (gives_functionItem attributes) ?_
  refine .ite (.ite (hsilent externalCrate) (.skip fun _ => hsilent _)) ?_
  refine .ite (gives_useDeclaration hphrases) (.ite (hoptional _) (.ite (hoptional _) ?_))
  refine .ite (.map (gives_moduleItem hphrases) fun _ => .some) ?_
  refine .ite (.skip fun _ => hsilent _) (.ite (hoptional _) ?_)
  refine .ite (.map gives_structureItem fun _ => .some) ?_
  refine .ite (.map gives_enumerationItem fun _ => .some) ?_
  refine .ite (hsilent _) (.ite (hsilent _) ?_)
  refine .ite (gives_implementationItem hphrases visible) ?_
  exact .ite (.skip fun _ => .pure nofun) (.skip fun _ => hsilent _)

theorem gives_item (hphrases : GoodNames good phrases) :
    Gives good (item phrases) (·.item.Names good) := by
  refine .skip fun start => .skip fun attributes => .skip fun visibility => ?_
  refine .bind (gives_itemAfterVisibility hphrases _ _) fun declared hnames => ?_
  cases declared with
  | some operand => exact .pure (hnames operand rfl)
  | none => exact .skip fun tokens => .pure .other

/-- The rules hold at every depth of the phrases. -/
theorem goodNames_nested (budget : Nat) : GoodNames good (nested budget) := by
  induction budget with
  | zero => exact ⟨fun _ => .refuse, fun _ => .refuse, .refuse⟩
  | succ budget ih => exact ⟨gives_type, gives_useTree ih, gives_item ih⟩

theorem gives_fileItems (tokens : List Token) :
    Gives good (fileItems (ofTokens tokens)) fun items => ∀ item ∈ items, item.Names good := by
  refine .skip fun attributes => .bind (goodNames_nested _).item.untilEnd fun operands hnames => ?_
  refine .pure fun item hitem => ?_
  obtain ⟨operand, hoperand, rfl⟩ := List.mem_map.mp hitem
  exact hnames operand hoperand

end Grammar

/-- The items of a file have identifiers for names. -/
theorem Item.names_of_ofSource? {text : String} {items : List Item}
    (hitems : ofSource? text = some items) : ∀ item ∈ items, item.Names IsIdentifier := by
  obtain ⟨tokens, htokens, hitems⟩ := Option.bind_eq_some_iff.mp hitems
  split at hitems
  · next hread =>
      cases hitems
      exact Grammar.gives_fileItems tokens tokens items [] (Token.allWords_ofText? htokens) hread
  · contradiction

end ShaderCalls.Source
