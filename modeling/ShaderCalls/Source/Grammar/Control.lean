import ShaderCalls.Source.Grammar.Pattern

/-!
# Conditions, loops and matches

The expressions that are built around blocks.  Attributes at the start of the block of a loop
belong to the loop; the blocks of a condition have none.
-/

namespace ShaderCalls.Source.Grammar

open ShaderCalls.Source.Parser

variable (phrases : Phrases)

/-- An expression that is a statement without a semicolon. -/
def blockLike (tokens : List Token) (code : Code) : Operand :=
  ⟨tokens, code, .blockLike⟩

/-- `if`, with all that `else` leads to. -/
def conditional : Parser Operand := do
  let step (clauses : List (List Token × Code × Code)) :
      Parser (List (List Token × Code × Code) ⊕
        (List (List Token × Code × Code) × List Token × List Code)) := do
    let ifWord ← word "if"
    let condition ← phrases.condition
    let consequent ← block phrases
    let tokens := ifWord ++ condition.tokens ++ consequent.tokens
    if ← peek (Ahead.isWord "else") then
      let elseWord ← word "else"
      let clauses := (tokens ++ elseWord, condition.code, consequent.code) :: clauses
      if ← peek (Ahead.isWord "if") then pure (.inl clauses)
      else
        let alternative ← block phrases
        pure (.inr (clauses, alternative.tokens, [alternative.code]))
    else
      pure (.inr ((tokens, condition.code, consequent.code) :: clauses, [], []))
  let (clauses, tokens, alternative) ← loop step []
  let (tokens, code) := clauses.foldl
    (fun (rest, alternative) (tokens, condition, consequent) =>
      (tokens ++ rest, [.conditional condition consequent alternative])) (tokens, alternative)
  pure (blockLike tokens (.other code))

/-- `while` -/
def whileLoop : Parser Operand := do
  let whileWord ← word "while"
  let condition ← phrases.condition
  let (attributes, body) ← attributedBlock phrases
  pure (blockLike (whileWord ++ condition.tokens ++ body.tokens)
    (withParts (attributePiece attributes).parts (.whileLoop condition.code body.code)))

/-- `for` -/
def forLoop : Parser Operand := do
  let forWord ← word "for"
  let pattern ← phrases.alternatives
  let inWord ← word "in"
  let iterated ← phrases.condition
  let (attributes, body) ← attributedBlock phrases
  pure (blockLike (forWord ++ pattern.tokens ++ inWord ++ iterated.tokens ++ body.tokens)
    (withParts (attributePiece attributes).parts (.forLoop pattern.code iterated.code body.code)))

/-- A block after a word: `loop` or `unsafe`. -/
def wordBlock (text : String) : Parser Operand := do
  let marker ← word text
  let body ← blockExpression phrases
  pure (blockLike (marker ++ body.tokens) (.other [body.code]))

/-- An arm of a match, with the comma after it. -/
def arm : Parser Piece := do
  let attributes := attributePiece (← outerAttributes phrases)
  let pattern ← phrases.alternatives
  let guard ← do
    if ← peek (Ahead.isWord "if") then
      pure (.ofTokens (← word "if") ++ (← phrases.expression).toPiece)
    else pure Piece.empty
  let arrow ← operator "=>"
  let body ← phrases.statementExpression
  let comma ← if body.form = .blockLike || (← atEnd) then operator? "," else operator ","
  pure ⟨attributes.tokens ++ pattern.tokens ++ guard.tokens ++ arrow ++ body.tokens ++ comma,
    [withParts attributes.parts (.arm pattern.code guard.parts body.code)]⟩

/-- `match` -/
def matchExpression : Parser Operand := do
  let matchWord ← word "match"
  let scrutinee ← phrases.condition
  let (attributes, arms) ← inside .brace do
    let attributes := attributePiece (← innerAttributes phrases)
    pure (attributes, Piece.join (← untilEnd (arm phrases)))
  pure (blockLike
    (matchWord ++ scrutinee.tokens ++ [.group .brace (attributes.tokens ++ arms.tokens)])
    (.other (attributes.parts ++ scrutinee.code :: arms.parts)))

/-- A loop or block after a label. -/
def labeled : Parser Operand := do
  let label ← lifetime
  let colon ← operator ":"
  let tokens ← here
  let labeled ←
    if Ahead.isWord "while" tokens then whileLoop phrases
    else if Ahead.isWord "for" tokens then forLoop phrases
    else if Ahead.isWord "loop" tokens then wordBlock phrases "loop"
    else blockExpression phrases
  pure { labeled with tokens := label ++ colon ++ labeled.tokens }

end ShaderCalls.Source.Grammar
