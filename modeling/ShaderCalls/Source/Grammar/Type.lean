import ShaderCalls.Source.Grammar.Attribute

/-!
# Paths, types and generics

In a type `<` opens generic arguments at once; in an expression only after `::`.  Types in
parentheses follow the path of a trait in a bound, and no other path.  Lifetimes are printed before
the other generic arguments and parameters, wherever they stand in the source.
-/

namespace ShaderCalls.Source.Grammar

open ShaderCalls.Source.Parser

variable (phrases : Phrases)

/-- Bounds with a plus between them, up to a place where none may begin. -/
def bounds (stop : List Token → Bool) : Parser Piece :=
  loop (fun (read : Piece) => do
    if ← peek stop then pure (.inr read)
    else
      let read := read ++ (← phrases.bound false true).toPiece
      if ← peek (Ahead.isOperator "+") then pure (.inl (read ++ .ofTokens (← operator "+")))
      else pure (.inr read)) Piece.empty

/-- Lifetimes with a plus between them, up to a place where none may begin. -/
def lifetimeBounds (stop : List Token → Bool) : Parser (List Token) :=
  loop (fun (read : List Token) => do
    if ← peek stop then pure (.inr read)
    else
      let read := read ++ (← lifetime)
      if ← peek (Ahead.isOperator "+") then pure (.inl (read ++ (← operator "+")))
      else pure (.inr read)) []

/-- Something optional after a mark. -/
def afterMark (mark : String) (parser : Parser Piece) : Parser Piece := do
  if ← peek (Ahead.isOperator mark) then pure (.ofTokens (← operator mark) ++ (← parser))
  else pure .empty

/-! ## Paths -/

/-- Whether `::` follows and the token after it passes a test. -/
def isColonsBefore (test : List Token → Bool) (tokens : List Token) : Bool :=
  Ahead.isOperator "::" tokens && test (Ahead.next (Ahead.next tokens))

/-- A value among generic arguments: a literal, a name or a block. -/
def constantArgument : Parser Piece := do
  if ← peek Ahead.isLiteral then pure (.ofTokens (← literal))
  else if ← peek Ahead.isName then pure (.ofTokens [← name])
  else pure (← blockExpression phrases).toPiece

/-- What was read of generics, where each entry tells whether it is a lifetime and holds the comma
after it: lifetimes first, and a comma put before another entry that the last lifetime has none for.
With `everywhere` such a comma is also put between the others. -/
def lifetimesFirst (everywhere : Bool) (entries : List ((Bool × Piece) × List Token)) : Piece :=
  let lifetimes := entries.filter (·.1.1)
  let others := entries.filter (!·.1.1)
  let comma := Piece.ofTokens (Token.marks [','])
  let start : Piece × Bool := (.empty, lifetimes.getLast?.all (!·.2.isEmpty))
  let shown := others.foldl (fun (piece, closed) ((_, entry), separator) =>
    (piece ++ (if closed then .empty else comma) ++ entry ++ .ofTokens separator,
      !everywhere || !separator.isEmpty)) start
  .ofSeparated (lifetimes.map fun ((_, entry), separator) => (entry, separator)) ++ shown.1

/-- The type of a result, if one is given. -/
def result (plus : Bool) : Parser Piece :=
  afterMark "->" do pure (← phrases.type plus).toPiece

/-- The types in parentheses after a name such as `Fn`, and the type of the result. -/
def functionArguments : Parser Piece := do
  let inputs ← inside .parenthesis (commaList (phrases.type true))
  let content := Piece.ofSeparated (inputs.map fun (type, comma) => (type.toPiece, comma))
  pure (.group .parenthesis content ++ (← result phrases false))

/-- A generic argument that begins with a type: a type, a type or value given to a name, or bounds
on a name. -/
def typeArgument : Parser Piece := do
  let first ← phrases.type true
  let isNamed := match first.form with
    | .path path => !path.rooted && path.segments.length = 1
    | _ => false
  if isNamed && (← peek (Ahead.isOperator "=")) then
    let equals ← operator "="
    if (← peek Ahead.isLiteral) || (← peek (Ahead.isGroup .brace)) then
      pure (first.toPiece ++ .ofTokens equals ++ (← constantArgument phrases))
    else
      pure (first.toPiece ++ .ofTokens equals ++ (← phrases.type true).toPiece)
  else if isNamed && (← peek (Ahead.isOperator ":")) then
    let colon ← operator ":"
    pure (first.toPiece ++ .ofTokens colon ++ (← bounds phrases fun tokens =>
      Ahead.isOperator "," tokens || Ahead.isOperator ">" tokens))
  else
    pure first.toPiece

/-- Generic arguments in angle brackets. -/
def genericArguments : Parser Piece := do
  let colons ← operator? "::"
  let less ← operator "<"
  let entries ← separated "," (Ahead.isOperator ">") do
    if ← peek fun tokens =>
        Ahead.isLifetime tokens && !Ahead.isOperator "+" (Ahead.next tokens) then
      pure (true, Piece.ofTokens (← lifetime))
    else if (← peek Ahead.isLiteral) || (← peek (Ahead.isGroup .brace)) then
      pure (false, ← constantArgument phrases)
    else
      pure (false, ← typeArgument phrases)
  let greater ← operator ">"
  pure (.ofTokens (colons ++ less) ++ lifetimesFirst true entries ++ .ofTokens greater)

/-- A segment of a path, and what was read of it. -/
def segment (inExpression : Bool) : Parser (Segment × Piece) := do
  if ← peek (Ahead.isOneOf ["super", "self", "crate", "try"]) then
    let word ← anyWord
    pure (⟨Token.render [word], false⟩, .ofTokens [word])
  else
    let word ← if ← peek (Ahead.isWord "Self") then anyWord else name
    let tokens ← here
    let opens := Ahead.isOperator "<" tokens && !Ahead.isOperator "<=" tokens &&
      !Ahead.isOperator "<<=" tokens
    if (!inExpression && opens) || isColonsBefore (Ahead.isOperator "<") tokens then
      pure (⟨Token.render [word], true⟩, .ofTokens [word] ++ (← genericArguments phrases))
    else
      pure (⟨Token.render [word], false⟩, .ofTokens [word])

/-- A path from pieces of its segments. -/
def pathOfSegments (root : List Token) (segments : List (Segment × Piece)) : PathOperand where
  toPiece := .ofTokens root ++ .join (segments.map (·.2))
  rooted := !root.isEmpty
  segments := segments.map (·.1)

/-- The segments that `::` leads to, as long as no parentheses follow it. -/
def moreSegments (inExpression : Bool) : Parser (List (Segment × Piece)) :=
  whileAhead (fun tokens =>
      Ahead.isOperator "::" tokens && !isColonsBefore (Ahead.isGroup .parenthesis) tokens) do
    let colons ← operator "::"
    let (segment, piece) ← segment phrases inExpression
    pure (segment, .ofTokens colons ++ piece)

/-- A path without a qualifying type. -/
def path (inExpression : Bool) : Parser PathOperand := do
  let root ← operator? "::"
  let first ← segment phrases inExpression
  let more ← moreSegments phrases inExpression
  pure (pathOfSegments root (first :: more))

/-- A path, and the qualifying type in front of it. -/
def qualifiedPath (inExpression : Bool) : Parser (Option Piece × PathOperand) := do
  if ← peek (Ahead.isOperator "<") then
    let less ← operator "<"
    let type ← phrases.type true
    let (asWord, trait) ← do
      if ← peek (Ahead.isWord "as") then
        let asWord ← word "as"
        pure (asWord, some (← path phrases false))
      else pure ([], none)
    let greater ← operator ">"
    let colons ← operator "::"
    let first ← segment phrases inExpression
    let more ← whileAhead (Ahead.isOperator "::") do
      let colons ← operator "::"
      let (segment, piece) ← segment phrases inExpression
      pure (segment, .ofTokens colons ++ piece)
    let rest := pathOfSegments colons (first :: more)
    let traitPiece := (trait.map (·.toPiece)).getD .empty
    pure (some (.ofTokens less ++ type.toPiece ++ .ofTokens asWord ++ traitPiece ++
        .ofTokens greater), {
      rest with
      rooted := trait.all (·.rooted)
      segments := (trait.map (·.segments)).getD [] ++ rest.segments })
  else
    pure (none, ← path phrases inExpression)

/-- Whether types in parentheses follow a path. -/
def isBeforeFunctionArguments (path : PathOperand) (tokens : List Token) : Bool :=
  path.segments.getLast?.any (!·.hasArguments) &&
    (Ahead.isGroup .parenthesis tokens || isColonsBefore (Ahead.isGroup .parenthesis) tokens)

/-- The types in parentheses that may follow the path of a trait; `::` before them is not
printed. -/
def functionArguments? (path : PathOperand) : Parser Piece := do
  if ← peek (isBeforeFunctionArguments path) then
    let _ ← operator? "::"
    functionArguments phrases
  else pure .empty

/-! ## Generics and bounds -/

/-- A parameter of generics, and whether it is a lifetime. -/
def genericParameter : Parser (Bool × Piece) := do
  let attributes := attributePiece (← outerAttributes phrases)
  let stop (tokens : List Token) : Bool :=
    Ahead.isOperator "," tokens || Ahead.isOperator ">" tokens
  if ← peek Ahead.isLifetime then
    let lifetime ← lifetime
    let colon ← operator? ":"
    let bounds ← if colon.isEmpty then pure [] else lifetimeBounds stop
    pure (true,
      attributes ++ .ofTokens (lifetime ++ (if bounds.isEmpty then [] else colon) ++ bounds))
  else if ← peek Ahead.isName then
    let name ← name
    let colon ← operator? ":"
    let bounds ← if colon.isEmpty then pure .empty else
      bounds phrases fun tokens => stop tokens || Ahead.isOperator "=" tokens
    let default ← afterMark "=" do pure (← phrases.type true).toPiece
    pure (false, attributes ++
      .ofTokens (name :: (if bounds.tokens.isEmpty then [] else colon)) ++ bounds ++ default)
  else
    let constWord ← word "const"
    let name ← name
    let colon ← operator ":"
    let type ← phrases.type true
    let default ← afterMark "=" (constantArgument phrases)
    pure (false, attributes ++ .ofTokens (constWord ++ [name] ++ colon) ++ type.toPiece ++ default)

/-- The lifetimes that `for<..>` brings in, if it follows. -/
def boundLifetimes : Parser Piece := do
  if ← peek (Ahead.isWord "for") then
    let forWord ← word "for"
    let less ← operator "<"
    let parameters ← separated "," (Ahead.isOperator ">") (genericParameter phrases)
    let greater ← operator ">"
    pure (.ofTokens (forWord ++ less) ++
      .ofSeparated (parameters.map fun ((_, piece), comma) => (piece, comma)) ++ .ofTokens greater)
  else
    pure .empty

/-- A trait as a bound; the truth value tells whether `const` stands before it. -/
def traitBound (constant : Bool) : Parser (Bool × Piece) := do
  let lifetimes ← boundLifetimes phrases
  let conditional ← peek (Ahead.isGroup .bracket)
  let unconditional ← peek (Ahead.isWord "const")
  if conditional then
    let _ ← inside .bracket (word "const")
  else if unconditional then
    let _ ← word "const"
  ensure (constant || !(conditional || unconditional))
  let modifier ← operator? "?"
  ensure (modifier.isEmpty || (lifetimes.tokens.isEmpty && !(← peek (Ahead.isWord "for"))))
  let path ← path phrases false
  let arguments ← functionArguments? phrases path
  pure (conditional || unconditional, .ofTokens modifier ++ lifetimes ++ path.toPiece ++ arguments)

/-- The names that `use<..>` captures. -/
def preciseCapture : Parser Piece := do
  let useWord ← word "use"
  let less ← operator "<"
  let names ← separated "," (Ahead.isOperator ">") do
    if ← peek Ahead.isLifetime then lifetime
    else if ← peek (Ahead.isWord "Self") then word "Self"
    else pure [← name]
  let greater ← operator ">"
  let names := names.flatMap fun (name, comma) => name ++ comma
  pure (.ofTokens (useWord ++ less ++ names ++ greater))

/-- One bound. -/
def bound (capture constant : Bool) : Parser BoundOperand := do
  if ← peek Ahead.isLifetime then pure ⟨.ofTokens (← lifetime), .lifetime⟩
  else if ← peek (Ahead.isWord "use") then
    ensure capture
    pure ⟨← preciseCapture, .capture⟩
  else
    let start ← here
    let (isConstant, piece) ← do
      if ← peek (Ahead.isGroup .parenthesis) then
        let (isConstant, piece) ← inside .parenthesis (traitBound phrases constant)
        pure (isConstant, .group .parenthesis piece)
      else traitBound phrases constant
    if isConstant then pure ⟨.ofTokens (← since start), .verbatim⟩ else pure ⟨piece, .trait⟩

/-- Whether a further bound may follow a plus. -/
def mayFollowPlus (constant : Bool) (tokens : List Token) : Bool :=
  Ahead.isAnyWord tokens || Ahead.isOperator "::" tokens || Ahead.isOperator "?" tokens ||
    Ahead.isLifetime tokens || Ahead.isGroup .parenthesis tokens ||
    (constant && Ahead.isGroup .bracket tokens)

/-- The bounds of a type, of which one at least is a trait. -/
def typeBounds (plus capture constant : Bool) : Parser Piece := do
  let bounds ← loop (fun (read : List BoundOperand × Piece) => do
    let bound ← phrases.bound capture constant
    let read := (read.1 ++ [bound], read.2 ++ bound.toPiece)
    if plus && (← peek (Ahead.isOperator "+")) then
      let read := (read.1, read.2 ++ .ofTokens (← operator "+"))
      if ← peek (mayFollowPlus constant) then pure (.inl read) else pure (.inr read)
    else pure (.inr read)) ([], Piece.empty)
  ensure (bounds.1.any fun bound => bound.form = .trait || bound.form = .verbatim)
  pure bounds.2

/-- Bounds after a first one, each behind a plus. -/
def boundsAfterPlus (first : Piece) : Parser (Bool × Piece) :=
  loop (fun (read : Bool × Piece) => do
    if ← peek (Ahead.isOperator "+") then
      let plus ← operator "+"
      let bound ← phrases.bound false false
      pure (.inl (false, read.2 ++ .ofTokens plus ++ bound.toPiece))
    else pure (.inr read)) (true, first)

/-- Generic parameters in angle brackets, if any; an empty list is not printed.  The truth value
tells whether there are angle brackets. -/
def generics : Parser (Bool × Piece) := do
  if ← peek (Ahead.isOperator "<") then
    let less ← operator "<"
    let parameters ← separated "," (Ahead.isOperator ">") do
      if ← peek fun tokens => Ahead.isWord "_" tokens then
        pure (false, Piece.ofTokens [← anyWord])
      else genericParameter phrases
    let greater ← operator ">"
    if parameters.isEmpty then pure (true, .empty)
    else
      pure (true, .ofTokens less ++ lifetimesFirst false parameters ++ .ofTokens greater)
  else
    pure (false, .empty)

/-- Whether generics, and not a type in angle brackets, follow a word such as `impl` or `for`. -/
def beginsGenerics (tokens : List Token) : Bool :=
  let first := Ahead.next tokens
  let second := Ahead.next first
  Ahead.isOperator "<" tokens &&
    (Ahead.isOperator ">" first || Ahead.isOperator "#" first || Ahead.isWord "const" first ||
      ((Ahead.isLifetime first || Ahead.isName first) &&
        (Ahead.isOperator ">" second || Ahead.isOperator "," second ||
          (Ahead.isOperator ":" second && !Ahead.isOperator "::" second) ||
          Ahead.isOperator "=" second)))

/-- A condition of a `where` clause. -/
def wherePredicate : Parser Piece := do
  let stop (tokens : List Token) : Bool :=
    tokens.isEmpty || Ahead.isGroup .brace tokens || Ahead.isOperator "," tokens ||
      Ahead.isOperator ";" tokens || Ahead.isOperator "=" tokens
  if ← peek fun tokens => Ahead.isLifetime tokens && Ahead.isOperator ":" (Ahead.next tokens) then
    let lifetime ← lifetime
    let colon ← operator ":"
    let bounds ← lifetimeBounds fun tokens => stop tokens || Ahead.isOperator ":" tokens
    pure (.ofTokens (lifetime ++ colon ++ bounds))
  else
    let lifetimes ← boundLifetimes phrases
    let type ← phrases.type true
    let colon ← operator ":"
    let bounds ← bounds phrases fun tokens =>
      stop tokens || (Ahead.isOperator ":" tokens && !Ahead.isOperator "::" tokens)
    pure (lifetimes ++ type.toPiece ++ .ofTokens colon ++ bounds)

/-- A `where` clause, if any; one without conditions is not printed.  The truth value tells whether
there is one. -/
def whereClause : Parser (Bool × Piece) := do
  if ← peek (Ahead.isWord "where") then
    let whereWord ← word "where"
    let predicates ← loop (fun (read : Piece) => do
      if ← endsAt (fun tokens => Ahead.isGroup .brace tokens || Ahead.isOperator "," tokens ||
          Ahead.isOperator ";" tokens || Ahead.isOperator "=" tokens ||
          (Ahead.isOperator ":" tokens && !Ahead.isOperator "::" tokens)) then
        pure (.inr read)
      else
        let read := read ++ (← wherePredicate phrases)
        if ← peek (Ahead.isOperator ",") then pure (.inl (read ++ .ofTokens (← operator ",")))
        else pure (.inr read)) Piece.empty
    if predicates.tokens.isEmpty then pure (true, .empty)
    else pure (true, .ofTokens whereWord ++ predicates)
  else
    pure (false, .empty)

/-! ## Types -/

/-- A type whose written form is itself. -/
def plainType (piece : Piece) (form : TypeForm) : TypeOperand :=
  { toPiece := piece, written := ⟨none, piece.tokens⟩, form }

/-- The binary interface of a function, if one is named. -/
def interface? : Parser (List Token) := do
  if ← peek (Ahead.isWord "extern") then
    let externWord ← word "extern"
    if ← peek Ahead.isStringLiteral then pure (externWord ++ (← literal)) else pure externWord
  else pure []

/-- Whether the arguments of a function pointer go on with dots, named or not. -/
def isVariadic (tokens : List Token) : Bool :=
  Ahead.isOperator "..." tokens ||
    ((Ahead.isName tokens || Ahead.isWord "_" tokens) &&
      Ahead.isOperator ":" (Ahead.next tokens) &&
      Ahead.isOperator "..." (Ahead.next (Ahead.next tokens)))

/-- An argument of a function pointer. -/
def pointerArgument (first : Bool) : Parser Piece := do
  let start ← here
  let changesSelf := first && (← peek fun tokens =>
    Ahead.isWord "mut" tokens && Ahead.isWord "self" (Ahead.next tokens))
  if changesSelf then
    let _ ← word "mut"
    if ← peek fun tokens => Ahead.isOperator ":" (Ahead.next tokens) &&
        !Ahead.isOperator "::" (Ahead.next tokens) then
      let _ ← word "self"
      let _ ← operator ":"
      let _ ← phrases.type true
    else
      let _ ← word "self"
    pure (.ofTokens (← since start))
  else
    let isNamed ← peek fun tokens =>
      (Ahead.isName tokens || Ahead.isWord "_" tokens || (first && Ahead.isWord "self" tokens)) &&
        Ahead.isOperator ":" (Ahead.next tokens) && !Ahead.isOperator "::" (Ahead.next tokens)
    let name ← if isNamed then pure ([← anyWord] ++ (← operator ":")) else pure []
    pure (.ofTokens name ++ (← phrases.type true).toPiece)

/-- The arguments of a function pointer. -/
def pointerArguments : Parser Piece :=
  loop (fun (read : Bool × Piece) => do
    if ← atEnd then pure (.inr read.2)
    else
      let attributes := attributePiece (← outerAttributes phrases)
      if ← peek isVariadic then
        let name ← if ← peek (Ahead.isOperator "...") then pure [] else
          pure ([← anyWord] ++ (← operator ":"))
        let dots ← operator "..."
        let comma ← operator? ","
        pure (.inr (read.2 ++ attributes ++ .ofTokens (name ++ dots ++ comma)))
      else
        let argument ← pointerArgument phrases read.1
        let read := read.2 ++ attributes ++ argument
        if ← atEnd then pure (.inr read)
        else pure (.inl (false, read ++ .ofTokens (← operator ","))))
    (true, Piece.empty)

/-- The type of a function pointer. -/
def functionPointer : Parser Piece := do
  let unsafeWord ← word? "unsafe"
  let interface ← interface?
  let fnWord ← word "fn"
  let arguments ← inside .parenthesis (pointerArguments phrases)
  pure (.ofTokens (unsafeWord ++ interface ++ fnWord) ++ .group .parenthesis arguments ++
    (← result phrases false))

/-- A type that begins with a path, after the lifetimes of `for<..>`. -/
def pathType (plus : Bool) (lifetimes : Piece) : Parser TypeOperand := do
  let (qualifier, path) ← qualifiedPath phrases false
  match qualifier with
  | some qualifier => pure (plainType (qualifier ++ path.toPiece) (.qualifiedPath path.names))
  | none =>
    if path.isPlain && (← peek isMacroBang) then
      let use ← macroUse phrases path
      pure (plainType use.toPiece .other)
    else if !lifetimes.tokens.isEmpty || (plus && (← peek (Ahead.isOperator "+"))) then
      let (single, piece) ← loop (fun (read : Bool × Piece) => do
        if plus && (← peek (Ahead.isOperator "+")) then
          let plusMark ← operator "+"
          let read := (false, read.2 ++ .ofTokens plusMark)
          if ← peek (mayFollowPlus false) then
            let bound ← phrases.bound false false
            pure (.inl (false, read.2 ++ bound.toPiece))
          else pure (.inr read)
        else pure (.inr read)) (true, lifetimes ++ path.toPiece)
      pure (plainType piece (.bounds single))
    else
      pure {
        toPiece := path.toPiece
        written := ⟨if path.isPlain then some path.names else none, path.tokens⟩
        form := .path path }

/-- A tuple of types after its first, whose comma follows. -/
def tupleTypes (first : TypeOperand) : Parser Piece := do
  let comma ← operator ","
  let more ← commaList (phrases.type true)
  pure (first.toPiece ++ .ofTokens comma ++
    .ofSeparated (more.map fun (type, comma) => (type.toPiece, comma)))

inductive ParenthesizedType where
  | tuple (content : Piece)
  /-- A single bound with a modifier. -/
  | bound (content : Piece)
  | single (type : TypeOperand)

/-- The content of parentheses in a type. -/
def parenthesizedContent : Parser ParenthesizedType := do
  if ← atEnd then pure (.tuple .empty)
  else if ← peek Ahead.isLifetime then
    pure (.single (plainType (← typeBounds phrases true false false) .other))
  else if ← peek (Ahead.isOperator "?") then
    pure (.bound (← traitBound phrases false).2)
  else
    let first ← phrases.type true
    if ← peek (Ahead.isOperator ",") then pure (.tuple (← tupleTypes phrases first))
    else pure (.single first)

/-- A type that begins with parentheses. -/
def parenthesizedType (plus : Bool) : Parser TypeOperand := do
  match ← inside .parenthesis (parenthesizedContent phrases) with
  | .tuple content =>
    let form := if content.tokens.isEmpty then .emptyTuple else .other
    pure (plainType (.group .parenthesis content) form)
  | .bound content =>
    let (single, piece) ← boundsAfterPlus phrases (.group .parenthesis content)
    pure (plainType piece (.bounds single))
  | .single type =>
    let piece := Piece.group .parenthesis type.toPiece
    let mayBegin := match type.form with
      | .path _ | .bounds true => true
      | _ => false
    if plus && mayBegin && (← peek (Ahead.isOperator "+")) then
      let (single, piece) ← boundsAfterPlus phrases piece
      pure (plainType piece (.bounds single))
    else
      pure { type with toPiece := piece, form := .other }

/-- A type in brackets: an array or a slice. -/
def bracketedType : Parser Piece := do
  let element ← phrases.type true
  if ← peek (Ahead.isOperator ";") then
    let semicolon ← operator ";"
    pure (element.toPiece ++ .ofTokens semicolon ++ (← phrases.expression).toPiece)
  else pure element.toPiece

/-- A trait object after the word `dyn`. -/
def dynamicType (plus : Bool) : Parser Piece := do
  let start ← here
  let dynWord ← word "dyn"
  let star ← operator? "*"
  let bounds ← typeBounds phrases plus false false
  if star.isEmpty then pure (.ofTokens dynWord ++ bounds) else pure (.ofTokens (← since start))

/-- A type; with `plus` it may be a sum of bounds. -/
def type (plus : Bool) : Parser TypeOperand := do
  let lifetimes ← boundLifetimes phrases
  if !lifetimes.tokens.isEmpty then
    ensure (← peek fun tokens => Ahead.isName tokens || Ahead.isPathWord tokens ||
      Ahead.isOneOf ["fn", "unsafe", "extern"] tokens)
  let tokens ← here
  if Ahead.isGroup .parenthesis tokens then parenthesizedType phrases plus
  else if Ahead.isOneOf ["fn", "unsafe", "extern"] tokens then
    pure (plainType (lifetimes ++ (← functionPointer phrases)) .other)
  else if Ahead.isName tokens || Ahead.isPathWord tokens || Ahead.isOperator "::" tokens ||
      Ahead.isOperator "<" tokens then
    pathType phrases plus lifetimes
  else if Ahead.isWord "dyn" tokens then
    pure (plainType (← dynamicType phrases plus) .other)
  else if Ahead.isGroup .bracket tokens then
    pure (plainType (.group .bracket (← inside .bracket (bracketedType phrases))) .other)
  else if Ahead.isOperator "*" tokens then
    let star ← operator "*"
    let mutability ← if ← peek (Ahead.isWord "const") then word "const" else word "mut"
    let type ← phrases.type false
    pure (plainType (.ofTokens (star ++ mutability) ++ type.toPiece) .other)
  else if Ahead.isOperator "&" tokens then
    let ampersand ← operator "&"
    let lifetime ← lifetime?
    let mutability ← word? "mut"
    let type ← phrases.type false
    pure { type with
      toPiece := .ofTokens (ampersand ++ lifetime ++ mutability) ++ type.toPiece
      form := .other }
  else if Ahead.isOperator "!" tokens then
    pure (plainType (.ofTokens (← operator "!")) .other)
  else if Ahead.isWord "impl" tokens then
    let implWord ← word "impl"
    pure (plainType (.ofTokens implWord ++ (← typeBounds phrases plus true true)) .other)
  else if Ahead.isWord "_" tokens then
    pure (plainType (.ofTokens [← anyWord]) .other)
  else if Ahead.isLifetime tokens then
    pure (plainType (← typeBounds phrases true false false) .other)
  else refuse

end ShaderCalls.Source.Grammar
