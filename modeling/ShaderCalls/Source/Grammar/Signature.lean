import ShaderCalls.Source.Grammar.Pattern

/-!
# Signatures and bodies of functions

A receiver can only stand first among the parameters and is no parameter of the function that is
declared.  Attributes at the start of a body belong to the function.
-/

namespace ShaderCalls.Source.Grammar

open ShaderCalls.Source.Parser

variable (phrases : Phrases)

/-- Who may use an item: `pub` and the place in parentheses after it, if any. -/
def visibility : Parser (List Token) := do
  if ← peek (Ahead.isWord "pub") then
    let pubWord ← word "pub"
    match ← here with
    | .group .parenthesis content :: _ =>
      if Ahead.isOneOf ["crate", "self", "super"] content then
        if content.length = 1 then
          let _ ← rawGroup
          pure (pubWord ++ [.group .parenthesis content])
        else pure pubWord
      else if Ahead.isWord "in" content then
        let place ← inside .parenthesis do
          let inWord ← word "in"
          pure (inWord ++ (← wordPath).tokens)
        pure (pubWord ++ [.group .parenthesis place])
      else pure pubWord
    | _ => pure pubWord
  else pure []

/-- Whether a signature begins; `safe` tells whether the word of that name may be part of it. -/
def beginsSignature (safe : Bool) (tokens : List Token) : Bool :=
  let skip (word : String) (tokens : List Token) : List Token :=
    if Ahead.isWord word tokens then Ahead.next tokens else tokens
  let tokens := skip "async" (skip "const" tokens)
  let tokens := if safe && Ahead.isWord "safe" tokens then Ahead.next tokens else
    skip "unsafe" tokens
  let tokens :=
    if Ahead.isWord "extern" tokens then
      let rest := Ahead.next tokens
      if Ahead.isStringLiteral rest then Ahead.next rest else rest
    else tokens
  Ahead.isWord "fn" tokens

/-- What stands for one argument in a signature. -/
inductive Argument where
  | receiver
  | parameter (parameter : Parameter)
  /-- `...`, after which no further argument may stand. -/
  | variadic

/-- `self`, with what may stand around it. -/
def receiver : Parser (List Token) := do
  let isReference ← peek (Ahead.isOperator "&")
  let reference ← if isReference then pure ((← operator "&") ++ (← lifetime?)) else pure []
  let mutability ← word? "mut"
  let selfWord ← word "self"
  let type ←
    if !isReference && (← peek (Ahead.isOperator ":")) then
      let colon ← operator ":"
      pure (colon ++ (← phrases.type true).tokens)
    else pure []
  pure (reference ++ mutability ++ selfWord ++ type)

/-- The dots of a variadic function, with the comma after them. -/
def variadicDots : Parser (List Token) := do
  let dots ← operator "..."
  pure (dots ++ (← if ← atEnd then pure [] else operator ","))

/-- One argument of a signature.  A type with generic arguments may stand without a name. -/
def argument : Parser (Argument × List Token) := do
  let attributes := (attributePiece (← outerAttributes phrases)).tokens
  if ← peek (Ahead.isOperator "...") then
    pure (.variadic, attributes ++ (← variadicDots))
  else
    match ← attempt (receiver phrases) with
    | some tokens => pure (.receiver, attributes ++ tokens)
    | none =>
      if ← peek fun tokens => Ahead.isName tokens && Ahead.isOperator "<" (Ahead.next tokens) then
        let type ← phrases.type true
        pure (.parameter ⟨"_", .empty, type.written⟩,
          attributes ++ .word "_" 0 :: Token.marks [':'] ++ type.tokens)
      else
        let pattern ← phrases.pattern
        let colon ← operator ":"
        let tokens := attributes ++ pattern.tokens ++ colon
        if ← peek (Ahead.isOperator "...") then
          pure (.variadic, tokens ++ (← variadicDots))
        else
          let type ← phrases.type true
          let name := match pattern.form with
            | .binding name => name
            | _ => Token.render pattern.tokens
          pure (.parameter ⟨name, pattern.code, type.written⟩, tokens ++ type.tokens)

/-- The arguments of a signature. -/
def arguments : Parser (List Parameter × List Token) :=
  loop (fun ((isFirst, parameters, read) : Bool × List Parameter × List Token) => do
    if ← atEnd then pure (.inr (parameters, read))
    else
      let (argument, tokens) ← argument phrases
      let read := read ++ tokens
      match argument with
      | .variadic => pure (.inr (parameters, read))
      | _ =>
        let parameters ← match argument with
          | .parameter parameter => pure (parameters ++ [parameter])
          | _ => do
            ensure isFirst
            pure parameters
        if ← atEnd then pure (.inr (parameters, read))
        else pure (.inl (false, parameters, read ++ (← operator ","))))
    (true, [], [])

/-- A signature that was read. -/
structure SignatureOperand where
  tokens : List Token
  name : String
  line : Nat
  parameters : List Parameter
  result : Option TypeExpr
  /-- Whether the word `safe` stands in it. -/
  isSafe : Bool

/-- A signature; `safe` tells whether the word of that name may be part of it. -/
def signature (safe : Bool) : Parser SignatureOperand := do
  let constWord ← word? "const"
  let asyncWord ← word? "async"
  let unsafeWord ← word? "unsafe"
  let safeWord ← if safe && unsafeWord.isEmpty then word? "safe" else pure []
  let interface ← interface?
  let fnWord ← word "fn"
  let nameWord ← name
  let (_, generics) ← generics phrases
  let (parameters, inputs) ← inside .parenthesis (arguments phrases)
  let (result, output) ← do
    if ← peek (Ahead.isOperator "->") then
      let arrow ← operator "->"
      let type ← phrases.type true
      let result := match type.form with
        | .emptyTuple => none
        | _ => some type.written
      pure (result, arrow ++ type.tokens)
    else pure (none, [])
  let (_, conditions) ← whereClause phrases
  let (text, line) := match nameWord with
    | .word text line => (text, line)
    | _ => ("", 0)
  pure {
    tokens := constWord ++ asyncWord ++ unsafeWord ++ safeWord ++ interface ++ fnWord ++
      nameWord :: generics.tokens ++ [.group .parenthesis inputs] ++ output ++ conditions.tokens
    name := text
    line, parameters, result
    isSafe := !safeWord.isEmpty }

/-- The body of a function after its signature: the function with its attributes, and the tokens
of all. -/
def functionBody (attributes : List Attribute) (signature : SignatureOperand) :
    Parser (Function × List Token) := do
  let (inner, body) ← inside .brace do
    let inner ← innerAttributes phrases
    pure (inner, ← phrases.statements)
  pure ({
      name := signature.name
      line := signature.line
      attributes := attributes ++ inner.map (·.value)
      parameters := signature.parameters
      result := signature.result
      tokens := [.group .brace body.tokens]
      statements := body.statements },
    signature.tokens ++ [.group .brace ((attributePiece inner).tokens ++ body.tokens)])

end ShaderCalls.Source.Grammar
