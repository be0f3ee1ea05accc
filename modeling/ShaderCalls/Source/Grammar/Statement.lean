import ShaderCalls.Source.Grammar.Expression
import ShaderCalls.Source.Grammar.Item

/-!
# Statements

A statement is a binding, an item, a macro use or an expression.  An expression that does not end
in a block needs a semicolon unless it is the last.
-/

namespace ShaderCalls.Source.Grammar

open ShaderCalls.Source.Parser

variable (phrases : Phrases)

/-- A statement that was read. -/
structure Statement where
  tokens : List Token
  code : Code
  /-- Whether it can only be the last of its block. -/
  isLast : Bool

/-- Whether a statement is a binding of names to a value. -/
def letStatement (attributes : Piece) : Parser Statement := do
  let letWord ← word "let"
  let pattern ← phrases.pattern
  let type ← afterMark ":" do pure (← phrases.type true).toPiece
  let head := attributes.tokens ++ letWord ++ pattern.tokens ++ type.tokens
  let bound := Code.other (pattern.code :: type.parts)
  if ← peek (Ahead.isOperator "=") then
    let equals ← operator "="
    let value ← phrases.expression
    if !Token.endsInBrace value.tokens && (← peek (Ahead.isWord "else")) then
      let elseWord ← word "else"
      let otherwise ← block phrases
      let semicolon ← operator ";"
      pure ⟨head ++ equals ++ value.tokens ++ elseWord ++ otherwise.tokens ++ semicolon,
        .letStatement bound [value.code, otherwise.code], false⟩
    else
      let semicolon ← operator ";"
      pure ⟨head ++ equals ++ value.tokens ++ semicolon, .letStatement bound [value.code], false⟩
  else
    pure ⟨head ++ (← operator ";"), .letStatement bound [], false⟩

/-- A macro use that is a statement by its braces, and the tokens after its path; none when the
tokens at hand are no such macro use. -/
def macroStatement? : Parser (Option Statement) := do
  match wordPath (← here) with
  | some (_, rest) =>
    let body := Ahead.next rest
    let after := Ahead.next body
    if Ahead.isOperator "!" rest && Ahead.isGroup .brace body &&
        !((Ahead.isOperator "." after && !Ahead.isOperator ".." after) ||
          Ahead.isOperator "?" after) then
      let use ← macroUse phrases (← wordPath)
      pure (some ⟨use.tokens ++ (← operator? ";"), use.code, false⟩)
    else pure none
  | none => pure none

/-- Whether the use of a macro that declares a name begins. -/
def beginsMacroItem (tokens : List Token) : Bool :=
  match wordPath tokens with
  | some (_, rest) =>
    let name := Ahead.next rest
    Ahead.isOperator "!" rest && (Ahead.isName name || Ahead.isWord "try" name)
  | none => false

/-- Whether an item begins where a statement may stand. -/
def beginsItem (tokens : List Token) : Bool :=
  let next := Ahead.next tokens
  let second := Ahead.next next
  Ahead.isOneOf
      ["pub", "extern", "use", "fn", "mod", "type", "struct", "enum", "trait", "impl", "macro"]
      tokens ||
    (Ahead.isWord "crate" tokens && !Ahead.isOperator "::" next) ||
    (Ahead.isWord "static" tokens && (Ahead.isWord "mut" next || Ahead.isName next)) ||
    (Ahead.isWord "const" tokens &&
      !(Ahead.isGroup .brace next || Ahead.isOneOf ["static", "move"] next ||
        (Ahead.isWord "async" next && !Ahead.isOneOf ["unsafe", "extern", "fn"] second) ||
        Ahead.isOperator "|" next)) ||
    (Ahead.isWord "unsafe" tokens && !Ahead.isGroup .brace next) ||
    (Ahead.isWord "async" tokens && Ahead.isOneOf ["unsafe", "extern", "fn"] next) ||
    (Ahead.isWord "union" tokens && Ahead.isName next) ||
    (Ahead.isWord "auto" tokens && Ahead.isWord "trait" next) ||
    (Ahead.isWord "default" tokens && Ahead.isOneOf ["unsafe", "impl"] next) ||
    beginsMacroItem tokens

/-- An expression as a statement. -/
def expressionStatement (attributes : Piece) : Parser Statement := do
  let operand := attributed attributes (← phrases.statementExpression)
  let semicolon ← operator? ";"
  let ends := operand.form = .blockLike || operand.form = .macroUse true || !semicolon.isEmpty
  pure ⟨operand.tokens ++ semicolon, operand.code, !ends⟩

/-- A statement after its attributes; none where an item begins. -/
def plainStatement? : Parser (Option Statement) := do
  let attributes := attributePiece (← outerAttributes phrases)
  match ← macroStatement? phrases with
  | some statement =>
    pure (some { statement with
      tokens := attributes.tokens ++ statement.tokens
      code := withParts attributes.parts statement.code })
  | none =>
    if ← peek (Ahead.isWord "let") then some <$> letStatement phrases attributes
    else if ← peek beginsItem then pure none
    else some <$> expressionStatement phrases attributes

/-- A statement; an item reads its attributes itself. -/
def statement : Parser Statement :=
  orAgain (plainStatement? phrases) do
    let item ← phrases.item
    pure ⟨item.tokens, .item item.item.functionName?, false⟩

/-- The statements of a block, with the semicolons that stand alone. -/
def statements : Parser Statements :=
  loop (fun (read : Statements) => do
    if ← atEnd then pure (.inr read)
    else if ← peek (Ahead.isOperator ";") then
      pure (.inl { read with tokens := read.tokens ++ (← operator ";") })
    else
      let statement ← statement phrases
      ensure (!statement.isLast || (← atEnd))
      pure (.inl ⟨read.tokens ++ statement.tokens, read.statements ++ [statement.code]⟩)) ⟨[], []⟩

end ShaderCalls.Source.Grammar
