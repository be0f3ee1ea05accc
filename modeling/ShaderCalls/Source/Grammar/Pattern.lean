import ShaderCalls.Source.Grammar.Type

/-!
# Patterns

A pattern is read for the names it binds.  A `box` pattern is kept as it stands in the source, and
the names in it are not bound.
-/

namespace ShaderCalls.Source.Grammar

open ShaderCalls.Source.Parser

variable (phrases : Phrases)

/-- A pattern that binds nothing by itself, from a piece. -/
def plainPattern (piece : Piece) (form : PatternForm) : PatternOperand :=
  ⟨piece.tokens, .other piece.parts, form⟩

/-- The marks of a range, and whether the end belongs to it.  In a pattern three dots stand for
`..=` and are printed so. -/
def rangeMarks (dots : Bool) : Parser (List Token × Bool) := do
  if ← peek (Ahead.isOperator "..=") then pure (← operator "..=", true)
  else if ← peek (Ahead.isOperator "...") then
    ensure dots
    let _ ← operator "..."
    pure (Token.marks "..=".toList, true)
  else pure (← operator "..", false)

/-- A constant block. -/
def constantBlock : Parser Operand := do
  let constWord ← word "const"
  let (attributes, body) ← attributedBlock phrases
  pure ⟨constWord ++ body.tokens, withParts (attributePiece attributes).parts body.code, .blockLike⟩

/-- Whether a path may begin. -/
def mayBeginPath (tokens : List Token) : Bool :=
  Ahead.isName tokens || Ahead.isOperator "::" tokens || Ahead.isOperator "<" tokens ||
    Ahead.isPathWord tokens

/-- A bound of a range: a literal, a path or a constant block. -/
def rangeBound : Parser Piece := do
  if ← peek Ahead.isLiteral then pure (.ofTokens (← literal))
  else if ← peek mayBeginPath then
    let (qualifier, path) ← qualifiedPath phrases true
    pure (qualifier.getD .empty ++ path.toPiece)
  else pure (← constantBlock phrases).toPiece

/-- A bound of a range, unless the pattern ends here. -/
def rangeBound? : Parser (Option Piece) := do
  if ← endsAt (fun tokens => Ahead.isOperator "|" tokens || Ahead.isOperator "=" tokens ||
      (Ahead.isOperator ":" tokens && !Ahead.isOperator "::" tokens) ||
      Ahead.isOperator "," tokens || Ahead.isOperator ";" tokens || Ahead.isWord "if" tokens) then
    pure none
  else pure (some (← rangeBound phrases))

/-- A range after its start. -/
def rangePattern (start : Piece) : Parser PatternOperand := do
  let (marks, closed) ← rangeMarks true
  let finish ← rangeBound? phrases
  ensure (finish.isSome || !closed)
  pure (plainPattern (start ++ .ofTokens marks ++ finish.getD .empty)
    (if finish.isSome then .other else .openRange))

/-- A range without a start, or `..`. -/
def halfOpenPattern : Parser PatternOperand := do
  let (marks, closed) ← rangeMarks false
  match ← rangeBound? phrases with
  | some finish => pure (plainPattern (.ofTokens marks ++ finish) .openRange)
  | none =>
    ensure (!closed)
    pure (plainPattern (.ofTokens marks) .rest)

/-- A name or the index of a field; the name, if it is one. -/
def member : Parser (Option String × List Token) := do
  if ← peek Ahead.isName then
    let word ← name
    pure (some (Token.render [word]), [word])
  else pure (none, ← index)

/-- A field of a structure pattern. -/
def fieldPattern : Parser Piece := do
  let start ← here
  let boxed ← word? "box"
  let reference ← word? "ref"
  let mutability ← word? "mut"
  let isBare := boxed.isEmpty && reference.isEmpty && mutability.isEmpty
  let (name, member) ← member
  match name with
  | none =>
    ensure isBare
    let colon ← operator ":"
    pure (.ofTokens (member ++ colon) ++ (← phrases.alternatives).toPiece)
  | some name =>
    if isBare && (← peek (Ahead.isOperator ":")) then
      let colon ← operator ":"
      pure (.ofTokens (member ++ colon) ++ (← phrases.alternatives).toPiece)
    else if boxed.isEmpty then
      pure ⟨reference ++ mutability ++ member, [.binding name []]⟩
    else
      pure (.ofTokens (← since start))

/-- The fields of a structure pattern, and `..` at their end. -/
def fieldPatterns : Parser Piece :=
  loop (fun (read : Piece) => do
    if ← atEnd then pure (.inr read)
    else
      let attributes := attributePiece (← outerAttributes phrases)
      if ← peek (Ahead.isOperator "..") then
        pure (.inr (read ++ attributes ++ .ofTokens (← operator "..")))
      else
        let read := read ++ attributes ++ (← fieldPattern phrases)
        if ← atEnd then pure (.inr read)
        else pure (.inl (read ++ .ofTokens (← operator ",")))) Piece.empty

/-- Patterns with commas between them. -/
def patternList : Parser (List (PatternOperand × List Token)) :=
  commaList phrases.alternatives

/-- The piece of patterns with their commas. -/
def patternListPiece (patterns : List (PatternOperand × List Token)) : Piece :=
  .ofSeparated (patterns.map fun (pattern, comma) => (pattern.toPiece, comma))

/-- A pattern that begins with a path. -/
def pathPattern : Parser PatternOperand := do
  let (qualifier, path) ← qualifiedPath phrases true
  let piece := qualifier.getD .empty ++ path.toPiece
  if qualifier.isNone && path.isPlain && (← peek isMacroBang) then
    let use ← macroUse phrases path
    pure ⟨use.tokens, use.code, .other⟩
  else if ← peek (Ahead.isGroup .brace) then
    let fields ← inside .brace (fieldPatterns phrases)
    pure (plainPattern (piece ++ .group .brace fields) .other)
  else if ← peek (Ahead.isGroup .parenthesis) then
    let patterns ← inside .parenthesis (patternList phrases)
    pure (plainPattern (piece ++ .group .parenthesis (patternListPiece patterns)) .other)
  else if ← peek (Ahead.isOperator "..") then rangePattern phrases piece
  else pure (plainPattern piece .other)

/-- A pattern that binds a name. -/
def bindingPattern : Parser PatternOperand := do
  let reference ← word? "ref"
  let mutability ← word? "mut"
  let word ← if ← peek (Ahead.isWord "self") then anyWord else name
  let inner ← afterMark "@" do pure (← phrases.pattern).toPiece
  let name := Token.render [word]
  pure ⟨reference ++ mutability ++ word :: inner.tokens, .binding name inner.parts, .binding name⟩

/-- A pattern in parentheses, or a tuple of patterns. -/
def parenthesizedPattern : Parser PatternOperand := do
  let patterns ← inside .parenthesis (patternList phrases)
  pure (plainPattern (.group .parenthesis (patternListPiece patterns)) .other)

/-- A slice pattern: a range in it has both ends. -/
def slicePattern : Parser PatternOperand := do
  let patterns ← inside .bracket (patternList phrases)
  ensure (patterns.all fun (pattern, _) =>
    match pattern.form with
    | .openRange => false
    | _ => true)
  pure (plainPattern (.group .bracket (patternListPiece patterns)) .other)

/-- Whether a path pattern begins. -/
def beginsPathPattern (tokens : List Token) : Bool :=
  let next := Ahead.next tokens
  (Ahead.isName tokens &&
    (Ahead.isOperator "::" next || Ahead.isOperator "!" next || Ahead.isGroup .brace next ||
      Ahead.isGroup .parenthesis next || Ahead.isOperator ".." next)) ||
    (Ahead.isWord "self" tokens && Ahead.isOperator "::" next) ||
    Ahead.isOperator "::" tokens || Ahead.isOperator "<" tokens ||
    Ahead.isOneOf ["Self", "super", "crate"] tokens

/-- A pattern without alternatives at its top. -/
def pattern : Parser PatternOperand := do
  let tokens ← here
  if beginsPathPattern tokens then pathPattern phrases
  else if Ahead.isWord "_" tokens then
    pure (plainPattern (.ofTokens [← anyWord]) .other)
  else if Ahead.isWord "box" tokens then
    let _ ← word "box"
    let _ ← phrases.pattern
    pure (plainPattern (.ofTokens (← since tokens)) .verbatim)
  else if Ahead.isOperator "-" tokens || Ahead.isLiteral tokens || Ahead.isWord "const" tokens then
    let start ← rangeBound phrases
    if ← peek (Ahead.isOperator "..") then rangePattern phrases start
    else pure (plainPattern start .other)
  else if Ahead.isOneOf ["ref", "mut", "self"] tokens || Ahead.isName tokens then
    bindingPattern phrases
  else if Ahead.isOperator "&" tokens then
    let ampersand ← operator "&"
    let mutability ← word? "mut"
    let inner ← phrases.pattern
    pure (plainPattern (.ofTokens (ampersand ++ mutability) ++ inner.toPiece) .other)
  else if Ahead.isGroup .parenthesis tokens then parenthesizedPattern phrases
  else if Ahead.isGroup .bracket tokens then slicePattern phrases
  else if Ahead.isOperator ".." tokens && !Ahead.isOperator "..." tokens then
    halfOpenPattern phrases
  else refuse

/-- A pattern that may have alternatives. -/
def alternatives : Parser PatternOperand := do
  let leading ← operator? "|"
  let first ← phrases.pattern
  let isBar (tokens : List Token) : Bool :=
    Ahead.isOperator "|" tokens && !Ahead.isOperator "||" tokens && !Ahead.isOperator "|=" tokens
  let more ← whileAhead isBar do
    let bar ← operator "|"
    pure (Piece.ofTokens bar ++ (← phrases.pattern).toPiece)
  if leading.isEmpty && more.isEmpty then pure first
  else pure (plainPattern (.ofTokens leading ++ first.toPiece ++ .join more) .other)

end ShaderCalls.Source.Grammar
