import ShaderCalls.Source.Grammar.Use

/-!
# Items

The declarations of a file, of a module and of a body.  The rules below read an item after its
attributes and visibility; they give `none` for a form that is kept as it stands in the source and
declares nothing.
-/

namespace ShaderCalls.Source.Grammar

open ShaderCalls.Source.Parser

variable (phrases : Phrases)

/-- An item that declares nothing the index knows. -/
def silentItem (tokens : List Token) : Option ItemOperand :=
  some ⟨tokens, .other⟩

/-- Bounds after a mark up to a place where none may begin, with the mark unless there are none. -/
def boundsAfter (mark : String) (stop : List Token → Bool) : Parser (Bool × List Token) := do
  let found ← operator? mark
  if found.isEmpty then pure (false, [])
  else
    let read ← loop (fun (read : List Token) => do
      if ← peek stop then pure (.inr read)
      else
        let read := read ++ (← phrases.bound false true).tokens
        if ← peek stop then pure (.inr read)
        else pure (.inl (read ++ (← operator "+")))) []
    pure (true, if read.isEmpty then [] else found ++ read)

/-- Members between braces, after attributes for what the braces belong to. -/
def members {α : Type} (member : Parser α) : Parser (List AttributeOperand × List α) :=
  inside .brace do
    let attributes ← innerAttributes phrases
    pure (attributes, ← untilEnd member)

/-- Members in braces as printed. -/
def memberGroup (attributes : List AttributeOperand) (members : List (List Token)) : List Token :=
  [.group .brace ((attributePiece attributes).tokens ++ members.flatten)]

/-- A macro use as an item. -/
def macroItem (named : Bool) : Parser (List Token) := do
  let path ← wordPath
  let bang ← operator "!"
  let nameWord ←
    if named && (← peek fun tokens => Ahead.isName tokens || Ahead.isWord "try" tokens) then
      pure [← anyWord]
    else pure []
  let (delimiter, content) ← rawGroup
  let semicolon ← if delimiter = .brace then pure [] else operator ";"
  pure (path.tokens ++ bang ++ nameWord ++ .group delimiter content :: semicolon)

/-- Whether a macro use may begin. -/
def mayBeginMacro (tokens : List Token) : Bool :=
  Ahead.isName tokens || Ahead.isOneOf ["self", "super", "crate"] tokens ||
    Ahead.isOperator "::" tokens

/-! ## Constants and types -/

/-- A constant, wherever it may stand; none unless it is without generics and, where one is
`required`, has a value. -/
def constantItem (required : Bool) : Parser (Option (List Token)) := do
  let constWord ← word "const"
  let name ← nameOrUnderscore
  let (generic, _) ← generics phrases
  let colon ← operator ":"
  let type ← phrases.type true
  let value ← afterMark "=" do pure (← phrases.expression).toPiece
  let (conditional, _) ← whereClause phrases
  let semicolon ← operator ";"
  if generic || conditional || (required && value.tokens.isEmpty) then pure none
  else pure (some (constWord ++ name :: colon ++ type.tokens ++ value.tokens ++ semicolon))

/-- A static; none unless it has a type and a value. -/
def staticItem : Parser (Option (List Token)) := do
  let staticWord ← word "static"
  let mutability ← word? "mut"
  let name ← name
  let head := staticWord ++ mutability ++ [name]
  if ← peek (Ahead.isOperator "=") then
    let _ ← operator "="
    let _ ← phrases.expression
    let _ ← operator ";"
    pure none
  else
    let colon ← operator ":"
    let type ← phrases.type true
    if ← peek (Ahead.isOperator ";") then
      let _ ← operator ";"
      pure none
    else
      let equals ← operator "="
      let value ← phrases.expression
      let semicolon ← operator ";"
      pure (some (head ++ colon ++ type.tokens ++ equals ++ value.tokens ++ semicolon))

/-- Where the conditions of a type stand. -/
inductive ConditionPlace where
  | beforeDefinition
  | afterDefinition
  | either
  deriving DecidableEq

/-- The parts of a type declaration. -/
structure TypeDeclaration where
  head : List Token
  generics : List Token
  hasColon : Bool
  bounds : List Token
  conditions : List Token
  definition : List Token
  semicolon : List Token

/-- A type declaration. -/
def typeDeclaration (place : ConditionPlace) : Parser TypeDeclaration := do
  let typeWord ← word "type"
  let name ← name
  let (_, generics) ← generics phrases
  let (hasColon, bounds) ← boundsAfter phrases ":" fun tokens =>
    Ahead.isWord "where" tokens || Ahead.isOperator "=" tokens || Ahead.isOperator ";" tokens
  let before ← if place = .afterDefinition then pure (false, .empty) else whereClause phrases
  let definition ← afterMark "=" do pure (← phrases.type true).toPiece
  let after ← if place = .afterDefinition || (place = .either && !before.1) then whereClause phrases
    else pure (false, .empty)
  pure {
    head := typeWord ++ [name]
    generics := generics.tokens
    hasColon, bounds
    conditions := before.2.tokens ++ after.2.tokens
    definition := definition.tokens
    semicolon := ← operator ";" }

/-- A type that stands for another; none unless it is plainly defined. -/
def typeItem (place : ConditionPlace) : Parser (Option (List Token)) := do
  let type ← typeDeclaration phrases place
  if type.hasColon || type.definition.isEmpty then pure none
  else if place = .beforeDefinition then
    pure (some (type.head ++ type.generics ++ type.conditions ++ type.definition ++ type.semicolon))
  else
    pure (some (type.head ++ type.generics ++ type.definition ++ type.conditions ++ type.semicolon))

/-! ## Structures -/

/-- Fields with names, in braces. -/
def namedFields : Parser (List Token) := do
  let fields ← inside .brace (commaList do
    let attributes := (attributePiece (← outerAttributes phrases)).tokens
    let visibility ← visibility
    let name ← nameOrUnderscore
    let colon ← operator ":"
    let type ← phrases.type true
    pure (attributes ++ visibility ++ name :: colon ++ type.tokens))
  pure [.group .brace (fields.flatMap fun (field, comma) => field ++ comma)]

/-- Fields without names, in parentheses. -/
def unnamedFields : Parser (List Token) := do
  let fields ← inside .parenthesis (commaList do
    let attributes := (attributePiece (← outerAttributes phrases)).tokens
    let visibility ← visibility
    pure (attributes ++ visibility ++ (← phrases.type true).tokens))
  pure [.group .parenthesis (fields.flatMap fun (field, comma) => field ++ comma)]

/-- An item's name as it is declared, from the word that stands for it. -/
def declaredName (word : Token) : String :=
  Token.render [word]

/-- A structure. -/
def structureItem : Parser ItemOperand := do
  let structWord ← word "struct"
  let name ← name
  let (_, generics) ← generics phrases
  let head := structWord ++ name :: generics.tokens
  let item (tokens : List Token) : ItemOperand := ⟨head ++ tokens, .type (declaredName name)⟩
  if ← peek (Ahead.isGroup .parenthesis) then
    let fields ← unnamedFields phrases
    let (_, conditions) ← whereClause phrases
    pure (item (fields ++ conditions.tokens ++ (← operator ";")))
  else
    let (_, conditions) ← whereClause phrases
    let fields ←
      if ← peek (Ahead.isGroup .brace) then namedFields phrases else operator ";"
    pure (item (conditions.tokens ++ fields))

/-- A variant of an enumeration; its visibility is not printed. -/
def variant : Parser (List Token) := do
  let attributes := (attributePiece (← outerAttributes phrases)).tokens
  let _ ← visibility
  let name ← name
  let fields ←
    if ← peek (Ahead.isGroup .brace) then namedFields phrases
    else if ← peek (Ahead.isGroup .parenthesis) then unnamedFields phrases
    else pure []
  let value ← afterMark "=" do pure (← phrases.expression).toPiece
  pure (attributes ++ name :: fields ++ value.tokens)

/-- An enumeration. -/
def enumerationItem : Parser ItemOperand := do
  let enumWord ← word "enum"
  let name ← name
  let (_, generics) ← generics phrases
  let (_, conditions) ← whereClause phrases
  let variants ← inside .brace (commaList (variant phrases))
  pure ⟨enumWord ++ name :: generics.tokens ++ conditions.tokens ++
      [.group .brace (variants.flatMap fun (variant, comma) => variant ++ comma)],
    .type (declaredName name)⟩

/-- A union, which is no type that the index knows. -/
def unionItem : Parser (List Token) := do
  let unionWord ← word "union"
  let name ← name
  let (_, generics) ← generics phrases
  let (_, conditions) ← whereClause phrases
  pure (unionWord ++ name :: generics.tokens ++ conditions.tokens ++ (← namedFields phrases))

/-! ## Functions and modules -/

/-- A function; none when it has no body. -/
def functionItem (attributes : List Attribute) : Parser (Option ItemOperand) := do
  let signature ← signature phrases false
  if ← peek (Ahead.isOperator ";") then
    let _ ← operator ";"
    pure none
  else
    let (declared, tokens) ← functionBody phrases attributes signature
    pure (some ⟨tokens, .function declared⟩)

/-- An external crate. -/
def externalCrate : Parser (List Token) := do
  let externWord ← word "extern"
  let crateWord ← word "crate"
  let name ← if ← peek (Ahead.isWord "self") then anyWord else name
  let newName ←
    if ← peek (Ahead.isWord "as") then pure ((← word "as") ++ [← nameOrUnderscore]) else pure []
  pure (externWord ++ crateWord ++ name :: newName ++ (← operator ";"))

/-- A module. -/
def moduleItem : Parser ItemOperand := do
  let unsafeWord ← word? "unsafe"
  let modWord ← word "mod"
  let name ← if ← peek (Ahead.isWord "try") then anyWord else name
  let head := unsafeWord ++ modWord ++ [name]
  if ← peek (Ahead.isOperator ";") then
    pure ⟨head ++ (← operator ";"), .module (declaredName name) none⟩
  else
    let (attributes, items) ← members phrases phrases.item
    pure ⟨head ++ memberGroup attributes (items.map (·.tokens)),
      .module (declaredName name) (some (items.map (·.item)))⟩

/-- A definition of a macro by the word of that name. -/
def macroDefinition : Parser Unit := do
  let _ ← word "macro"
  let _ ← name
  if ← peek (Ahead.isGroup .parenthesis) then
    let _ ← rawGroup
  ensure (← peek (Ahead.isGroup .brace))
  let _ ← rawGroup

/-! ## External functions, traits and implementations -/

/-- A member with attributes in front; a member that is kept as it stands holds its own. -/
def withOuterAttributes (member : List Token → Parser (Option (List Token))) :
    Parser (List Token) := do
  let start ← here
  let attributes := (attributePiece (← outerAttributes phrases)).tokens
  let visibility ← visibility
  match ← member visibility with
  | some tokens => pure (attributes ++ visibility ++ tokens)
  | none => since start

/-- What may be declared of another binary. -/
def externalMember : Parser (List Token) :=
  withOuterAttributes phrases fun visibility => do
    let tokens ← here
    let next := Ahead.next tokens
    if beginsSignature true tokens then
      let signature ← signature phrases true
      if ← peek (Ahead.isGroup .brace) then
        let _ ← functionBody phrases [] signature
        pure none
      else
        let semicolon ← operator ";"
        pure (if signature.isSafe then none else some (signature.tokens ++ semicolon))
    else if Ahead.isWord "static" tokens ||
        (Ahead.isOneOf ["unsafe", "safe"] tokens && Ahead.isWord "static" next) then
      let marked ← if Ahead.isWord "static" tokens then pure false else do
        let _ ← anyWord
        pure true
      let staticWord ← word "static"
      let mutability ← word? "mut"
      let name ← name
      let colon ← operator ":"
      let type ← phrases.type true
      let value ← afterMark "=" do pure (← phrases.expression).toPiece
      let semicolon ← operator ";"
      if marked || !value.tokens.isEmpty then pure none
      else pure (some (staticWord ++ mutability ++ name :: colon ++ type.tokens ++ semicolon))
    else if Ahead.isWord "type" tokens then
      let type ← typeDeclaration phrases .either
      if type.hasColon || !type.definition.isEmpty then pure none
      else pure (some (type.head ++ type.generics ++ type.conditions ++ type.semicolon))
    else
      ensure (visibility.isEmpty && mayBeginMacro tokens)
      some <$> macroItem false

/-- A block of what is declared of another binary. -/
def externalBlock : Parser (List Token) := do
  let unsafeWord ← word? "unsafe"
  ensure (← peek (Ahead.isWord "extern"))
  let interface ← interface?
  let (attributes, declared) ← members phrases (externalMember phrases)
  pure (unsafeWord ++ interface ++ memberGroup attributes declared)

/-- A function of a trait, which may lack its body. -/
def traitFunction : Parser (List Token) := do
  let signature ← signature phrases false
  if ← peek (Ahead.isOperator ";") then pure (signature.tokens ++ (← operator ";"))
  else pure (← functionBody phrases [] signature).2

/-- A member of a trait. -/
def traitMember : Parser (List Token) :=
  withOuterAttributes phrases fun visibility => do
    let defaultWord ← word? "default"
    let isPlain := visibility.isEmpty && defaultWord.isEmpty
    let tokens ← here
    let member ←
      if beginsSignature false tokens then some <$> traitFunction phrases
      else if Ahead.isWord "const" tokens then constantItem phrases false
      else if Ahead.isWord "type" tokens then do
        let type ← typeDeclaration phrases .afterDefinition
        pure (some (type.head ++ type.generics ++ type.bounds ++ type.definition ++
          type.conditions ++ type.semicolon))
      else do
        ensure (isPlain && mayBeginMacro tokens)
        some <$> macroItem false
    pure (if isPlain then member else none)

/-- A trait, or the name of a sum of traits. -/
def traitItem : Parser (List Token) := do
  let unsafeWord ← word? "unsafe"
  let autoWord ← word? "auto"
  let traitWord ← word "trait"
  let name ← name
  let (_, generics) ← generics phrases
  let head := unsafeWord ++ autoWord ++ traitWord ++ name :: generics.tokens
  if unsafeWord.isEmpty && autoWord.isEmpty && (← peek (Ahead.isOperator "=")) then
    let (_, bounds) ← boundsAfter phrases "=" fun tokens =>
      Ahead.isWord "where" tokens || Ahead.isOperator ";" tokens
    let equals := if bounds.isEmpty then Token.marks ['='] else []
    let (_, conditions) ← whereClause phrases
    pure (head ++ equals ++ bounds ++ conditions.tokens ++ (← operator ";"))
  else
    let (_, bounds) ← boundsAfter phrases ":" fun tokens =>
      Ahead.isWord "where" tokens || Ahead.isGroup .brace tokens
    let (_, conditions) ← whereClause phrases
    let (attributes, declared) ← members phrases (traitMember phrases)
    pure (head ++ bounds ++ conditions.tokens ++ memberGroup attributes declared)

/-- A member of an implementation, and the function that it is. -/
def implementationMember : Parser (Option Function × List Token) := do
  let start ← here
  let attributes ← outerAttributes phrases
  let visibility ← visibility
  let defaultWord ←
    if ← peek fun tokens => Ahead.isWord "default" tokens &&
        !Ahead.isOperator "!" (Ahead.next tokens) then word "default"
    else pure []
  let tokens ← here
  let head := (attributePiece attributes).tokens ++ visibility ++ defaultWord
  let plain (member : Option (List Token)) : Parser (Option Function × List Token) := do
    match member with
    | some tokens => pure (none, head ++ tokens)
    | none => pure (none, ← since start)
  if beginsSignature false tokens then
    match ← functionItem phrases (attributes.map (·.value)) with
    | some ⟨tokens, .function declared⟩ => pure (some declared, head ++ tokens)
    | _ => plain none
  else if Ahead.isWord "const" tokens then plain (← constantItem phrases true)
  else if Ahead.isWord "type" tokens then plain (← typeItem phrases .afterDefinition)
  else
    ensure (visibility.isEmpty && defaultWord.isEmpty && mayBeginMacro tokens)
    plain (some (← macroItem false))

/-- An implementation; none when it is not declared, which one with a visibility, a constant one
and one of what is no trait are not. -/
def implementationItem (visible : Bool) : Parser (Option ItemOperand) := do
  let defaultWord ← word? "default"
  let unsafeWord ← word? "unsafe"
  let implWord ← word "impl"
  let (_, generics) ← if ← peek beginsGenerics then generics phrases else pure (false, .empty)
  let constant ← peek fun tokens => Ahead.isWord "const" tokens ||
    (Ahead.isOperator "?" tokens && Ahead.isWord "const" (Ahead.next tokens))
  if constant then
    let _ ← operator? "?"
    let _ ← word "const"
  let negative ← peek fun tokens =>
    Ahead.isOperator "!" tokens && !Ahead.isGroup .brace (Ahead.next tokens)
  let polarity ← if negative then operator "!" else pure []
  let first ← phrases.type true
  let (forWord, implementing, isDeclared) ← do
    if ← peek (Ahead.isWord "for") then
      let forWord ← word "for"
      let isTrait := match first.form with
        | .path _ => true
        | _ => false
      pure (forWord, some (← phrases.type true), isTrait)
    else pure ([], none, true)
  let (_, conditions) ← whereClause phrases
  let (attributes, declared) ← members phrases (implementationMember phrases)
  let path := match implementing, first.form with
    | some type, _ => match type.form with
      | .path path => some path.names
      | .qualifiedPath names => some names
      | _ => none
    | none, .path path => if negative then none else some path.names
    | none, .qualifiedPath names => if negative then none else some names
    | _, _ => none
  if visible || constant || !isDeclared then pure none
  else
    pure (some ⟨defaultWord ++ unsafeWord ++ implWord ++ generics.tokens ++ polarity ++
        first.tokens ++ forWord ++ ((implementing.map (·.tokens)).getD []) ++ conditions.tokens ++
        memberGroup attributes (declared.map (·.2)),
      .implementation path (declared.filterMap (·.1))⟩)

/-! ## Any item -/

/-- An item after its attributes and visibility. -/
def itemAfterVisibility (attributes : List Attribute) (visible : Bool) :
    Parser (Option ItemOperand) := do
  let tokens ← here
  let next := Ahead.next tokens
  let silent (parser : Parser (List Token)) : Parser (Option ItemOperand) :=
    silentItem <$> parser
  let optional (parser : Parser (Option (List Token))) : Parser (Option ItemOperand) := do
    pure ((← parser).map fun tokens => ⟨tokens, .other⟩)
  if beginsSignature false tokens then functionItem phrases attributes
  else if Ahead.isWord "extern" tokens then
    if Ahead.isWord "crate" next then silent externalCrate
    else
      ensure !visible
      silent (externalBlock phrases)
  else if Ahead.isWord "use" tokens then useDeclaration phrases
  else if Ahead.isWord "static" tokens then optional (staticItem phrases)
  else if Ahead.isWord "const" tokens then optional (constantItem phrases true)
  else if Ahead.isWord "mod" tokens ||
      (Ahead.isWord "unsafe" tokens && Ahead.isWord "mod" next) then
    some <$> moduleItem phrases
  else if Ahead.isWord "unsafe" tokens && Ahead.isWord "extern" next then
    ensure !visible
    silent (externalBlock phrases)
  else if Ahead.isWord "type" tokens then optional (typeItem phrases .beforeDefinition)
  else if Ahead.isWord "struct" tokens then some <$> structureItem phrases
  else if Ahead.isWord "enum" tokens then some <$> enumerationItem phrases
  else if Ahead.isWord "union" tokens && Ahead.isName next then silent (unionItem phrases)
  else if Ahead.isWord "trait" tokens ||
      (Ahead.isOneOf ["auto", "unsafe"] tokens && Ahead.isWord "trait" next) ||
      (Ahead.isWord "unsafe" tokens && Ahead.isWord "auto" next &&
        Ahead.isWord "trait" (Ahead.next next)) then
    silent (traitItem phrases)
  else if Ahead.isWord "impl" tokens ||
      (Ahead.isWord "default" tokens && !Ahead.isOperator "!" next) ||
      (Ahead.isWord "unsafe" tokens && Ahead.isWord "impl" next) then
    implementationItem phrases visible
  else if Ahead.isWord "macro" tokens then
    macroDefinition
    pure none
  else
    ensure (!visible && mayBeginMacro tokens)
    silent (macroItem true)

/-- An item. -/
def item : Parser ItemOperand := do
  let start ← here
  let attributes ← outerAttributes phrases
  let visibility ← visibility
  match ← itemAfterVisibility phrases (attributes.map (·.value)) !visibility.isEmpty with
  | some item =>
    pure { item with tokens := (attributePiece attributes).tokens ++ visibility ++ item.tokens }
  | none => pure ⟨← since start, .other⟩

end ShaderCalls.Source.Grammar
