import ShaderCalls.Source.Grammar.Phrase
import ShaderCalls.Text.Character
import ShaderCalls.Text.Separator

/-!
# Attributes, blocks and macro uses

The parts of the grammar that stand on expressions and statements alone.
-/

namespace ShaderCalls.Source.Grammar

open ShaderCalls.Source.Parser

/-- An attribute that was read. -/
structure AttributeOperand extends Piece where
  value : Attribute

/-- Attributes as one piece. -/
def attributePiece (attributes : List AttributeOperand) : Piece :=
  .join (attributes.map (·.toPiece))

/-- Code with attributes in front. -/
def withParts (parts : List Code) (code : Code) : Code :=
  if parts.isEmpty then code else .other (parts ++ [code])

/-- A path of words, as modules and macros have it. -/
def wordPath : Parser PathOperand := do
  let root ← operator? "::"
  let segment : Parser Token := do
    ensure ((← peek Ahead.isName) || (← peek Ahead.isPathWord))
    anyWord
  let first ← segment
  let more ← whileAhead (Ahead.isOperator "::") do
    let separator ← operator "::"
    pure (separator, ← segment)
  let words := first :: more.map (·.2)
  pure {
    rooted := !root.isEmpty
    segments := words.filterMap fun
      | .word text _ => some ⟨text, false⟩
      | _ => none
    tokens := root ++ first :: more.flatMap fun (separator, word) => separator ++ [word]
    parts := [] }

/-- The arguments in the tokens of an attribute: a list of expressions, or else the text between
the commas, without blanks around it and without empty parts. -/
def attributeArguments (phrases : Phrases) (content : List Token) : List String :=
  match commaList phrases.expression content with
  | some (arguments, []) => arguments.map fun argument => Token.render argument.1.tokens
  | _ =>
    let parts := Text.splitAll ',' (Token.render content).toList
    (parts.map fun part => Text.trim (String.ofList part)).filter (· != "")

/-- What stands between the brackets of an attribute. -/
def attributeContent (phrases : Phrases) : Parser AttributeOperand := do
  let path ← do
    if ← peek (Ahead.isWord "unsafe") then
      let unsafeWord ← word "unsafe"
      pure { rooted := false, segments := [⟨"unsafe", false⟩], tokens := unsafeWord, parts := [] }
    else wordPath
  let name := (path.names.getLast?).getD ""
  match ← here with
  | .group delimiter content :: _ =>
    let _ ← rawGroup
    pure ⟨⟨path.tokens ++ [.group delimiter content], []⟩,
      ⟨name, attributeArguments phrases content⟩⟩
  | _ =>
    if ← peek (Ahead.isOperator "=") then
      let equals ← operator "="
      let value ← do
        match literal (← here) with
        | some (value, []) =>
          let _ ← literal
          pure (⟨value, .empty, .other⟩ : Operand)
        | _ =>
          ensure (!(← peek fun tokens =>
            Ahead.isOperator "#" tokens && Ahead.isGroup .bracket (Ahead.next tokens)))
          phrases.expression
      pure ⟨⟨path.tokens ++ equals ++ value.tokens, [value.code]⟩,
        ⟨name, [Token.render value.tokens]⟩⟩
    else
      pure ⟨path.toPiece, ⟨name, []⟩⟩

/-- An attribute, where `marks` are those before its brackets. -/
def bracketed (phrases : Phrases) (marks : Parser (List Token)) : Parser AttributeOperand := do
  let marks ← marks
  let content ← inside .bracket (attributeContent phrases)
  pure { content with tokens := marks ++ [.group .bracket content.tokens] }

/-- The attributes in front of something. -/
def outerAttributes (phrases : Phrases) : Parser (List AttributeOperand) :=
  whileAhead (Ahead.isOperator "#") (bracketed phrases (operator "#"))

/-- The attributes inside something. -/
def innerAttributes (phrases : Phrases) : Parser (List AttributeOperand) :=
  whileAhead (fun tokens => Ahead.isOperator "#" tokens && Ahead.isOperator "!" (Ahead.next tokens))
    (bracketed phrases do pure ((← operator "#") ++ (← operator "!")))

/-- Statements in braces. -/
def block (phrases : Phrases) : Parser Operand := do
  let content ← inside .brace phrases.statements
  pure ⟨[.group .brace content.tokens], .block content.statements, .blockLike⟩

/-- Statements in braces that may begin with attributes for what the braces belong to. -/
def attributedBlock (phrases : Phrases) : Parser (List AttributeOperand × Operand) :=
  inside .brace do
    let attributes ← innerAttributes phrases
    let content ← phrases.statements
    pure (attributes,
      ⟨[.group .brace ((attributePiece attributes).tokens ++ content.tokens)],
        .block content.statements, .blockLike⟩)

/-- A block as an expression of its own. -/
def blockExpression (phrases : Phrases) : Parser Operand := do
  let (attributes, body) ← attributedBlock phrases
  pure { body with code := withParts (attributePiece attributes).parts body.code }

/-- The two expressions of `value; count`. -/
def repetition (phrases : Phrases) : Parser (List Code) := do
  let value ← phrases.expression
  let _ ← operator ";"
  let count ← phrases.expression
  pure [value.code, count.code]

/-- The arguments of a macro, when its content is a list of expressions or `value; count`. -/
def macroArguments? (phrases : Phrases) (content : List Token) : Option (List Code) :=
  match commaList phrases.expression content with
  | some (arguments, []) => some (arguments.map (·.1.code))
  | _ =>
    match repetition phrases content with
    | some (arguments, []) => some arguments
    | _ => none

/-- The rest of a macro use after its path. -/
def macroUse (phrases : Phrases) (path : PathOperand) : Parser Operand := do
  let bang ← operator "!"
  let (delimiter, content) ← rawGroup
  let tokens := path.tokens ++ bang ++ [.group delimiter content]
  pure ⟨tokens, .macroUse (macroArguments? phrases content) tokens,
    .macroUse (delimiter = .brace)⟩

/-- Whether a macro use follows a path of words. -/
def isMacroBang (tokens : List Token) : Bool :=
  Ahead.isOperator "!" tokens && !Ahead.isOperator "!=" tokens

end ShaderCalls.Source.Grammar
