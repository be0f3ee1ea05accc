import ShaderCalls.Source.Grammar.Control

/-!
# Expressions

An operand is a literal, a path, a group, a closure or a construct with a block; calls, fields,
indexes and question marks follow it, signs and attributes precede it, and operators join it to
others.  Where a block may follow, braces after a path do not belong to it.
-/

namespace ShaderCalls.Source.Grammar

open ShaderCalls.Source.Parser

variable (phrases : Phrases)

/-- An expression that nothing around it distinguishes. -/
def plainOperand (piece : Piece) : Operand :=
  ⟨piece.tokens, .other piece.parts, .other⟩

/-- Code with attributes in front, which belong to its first operand. -/
def withAttributes (attributes : Piece) : Code → Code
  | .call callee tokens parts =>
    .call callee (attributes.tokens ++ tokens) (attributes.parts ++ parts)
  | .method onSelf name tokens parts =>
    .method onSelf name (attributes.tokens ++ tokens) (attributes.parts ++ parts)
  | .operation first rest => .operation (withAttributes attributes first) rest
  | code => withParts attributes.parts code

/-- An expression with attributes in front; an expression that is kept as it stands loses them. -/
def attributed (attributes : Piece) (operand : Operand) : Operand :=
  if operand.form = .verbatim then operand
  else { operand with
    tokens := attributes.tokens ++ operand.tokens
    code := withAttributes attributes operand.code }

/-- Whether an expression may begin. -/
def mayBeginExpression (tokens : List Token) : Bool :=
  let begins (mark : String) (longer : List String) : Bool :=
    Ahead.isOperator mark tokens && !longer.any (Ahead.isOperator · tokens)
  (Ahead.isAnyWord tokens && !Ahead.isWord "as" tokens) || Ahead.isGroup .parenthesis tokens ||
    Ahead.isGroup .bracket tokens || Ahead.isGroup .brace tokens || Ahead.isLiteral tokens ||
    begins "!" ["!="] || begins "-" ["-=", "->"] || begins "*" ["*="] || begins "|" ["|="] ||
    begins "&" ["&="] || begins ".." [] || begins "<" ["<=", "<<="] || begins "::" [] ||
    Ahead.isLifetime tokens || begins "#" []

/-! ## Operators -/

/-- The operators between two operands; of two that begin alike the longer comes first. -/
def binaryOperators : List (String × Precedence) :=
  [("+=", .assignment), ("-=", .assignment), ("*=", .assignment), ("/=", .assignment),
    ("%=", .assignment), ("^=", .assignment), ("&=", .assignment), ("|=", .assignment),
    ("<<=", .assignment), (">>=", .assignment), ("&&", .and), ("||", .or), ("<<", .shift),
    (">>", .shift), ("==", .comparison), ("<=", .comparison), ("!=", .comparison),
    (">=", .comparison), ("+", .sum), ("-", .sum), ("*", .product), ("/", .product),
    ("%", .product), ("^", .bitXor), ("&", .bitAnd), ("|", .bitOr), ("<", .comparison),
    (">", .comparison)]

/-- The operator at hand. -/
def binaryOperator? (tokens : List Token) : Option (String × Precedence) :=
  binaryOperators.find? fun (text, _) => Ahead.isOperator text tokens

/-- Whether an equals sign follows that is no part of an arrow. -/
def isAssignment (tokens : List Token) : Bool :=
  Ahead.isOperator "=" tokens && !Ahead.isOperator "=>" tokens

/-- The precedence of the operator at hand. -/
def nextPrecedence (tokens : List Token) : Precedence :=
  match binaryOperator? tokens with
  | some (_, precedence) => precedence
  | none =>
    if isAssignment tokens then .assignment
    else if Ahead.isOperator ".." tokens then .range
    else if Ahead.isWord "as" tokens then .cast
    else .any

/-- The right operand of an operator, with the operators in it that bind more tightly. -/
def rightOperand (braces : Bool) (precedence : Precedence) : Parser Operand := do
  loop (fun (right : Operand) => do
    let next := nextPrecedence (← here)
    if right.form != .range &&
        (precedence.rank < next.rank || (next = precedence && precedence = .assignment)) then
      pure (.inl (← phrases.operators right braces next))
    else pure (.inr right)) (← phrases.unary braces)

/-- Whether a range that may lack its end lacks it here. -/
def endsRange (braces : Bool) (tokens : List Token) : Bool :=
  tokens.isEmpty ||
    [",", ";", "?", "=>", "=", "+", "/", "%", "^", ">", "<=", "!=", "-=", "*=", "&=", "|=",
      "<<="].any (Ahead.isOperator · tokens) ||
    (Ahead.isOperator "." tokens && !Ahead.isOperator ".." tokens) ||
    (!braces && Ahead.isGroup .brace tokens) || Ahead.isWord "as" tokens

/-- The marks of a range and its end. -/
def rangeEnd (braces : Bool) : Parser Piece := do
  let (marks, closed) ← rangeMarks false
  if !closed && (← peek (endsRange braces)) then pure (.ofTokens marks)
  else pure (.ofTokens marks ++ (← rightOperand phrases braces .range).toPiece)

/-- The operators of at least precedence `base` that follow an operand.  A range is no operand of
another operator, and comparisons do not follow one another. -/
def operators (left : Operand) (braces : Bool) (base : Precedence) : Parser Operand :=
  loop (fun (left : Operand) => do
    let tokens ← here
    if left.form = .range then pure (.inr left)
    else
      match binaryOperator? tokens with
      | some (text, precedence) =>
        if precedence.rank < base.rank then pure (.inr left)
        else
          ensure (!(precedence = .comparison && left.form = .comparison))
          let marks ← operator text
          let right ← rightOperand phrases braces precedence
          pure (.inl ⟨left.tokens ++ marks ++ right.tokens, .operation left.code [right.code],
            if precedence = .comparison then .comparison else .other⟩)
      | none =>
        if base.rank ≤ Precedence.assignment.rank && isAssignment tokens then
          let equals ← operator "="
          let right ← rightOperand phrases braces .assignment
          pure (.inl
            ⟨left.tokens ++ equals ++ right.tokens, .operation left.code [right.code], .other⟩)
        else if base.rank ≤ Precedence.range.rank && Ahead.isOperator ".." tokens then
          let finish ← rangeEnd phrases braces
          pure (.inl ⟨left.tokens ++ finish.tokens, .other (left.code :: finish.parts), .range⟩)
        else if base.rank ≤ Precedence.cast.rank && Ahead.isWord "as" tokens then
          let asWord ← word "as"
          let type ← phrases.type false
          ensure (!(← peek fun tokens =>
            (Ahead.isOperator "." tokens && !Ahead.isOperator ".." tokens) ||
              Ahead.isOperator "?" tokens || Ahead.isGroup .bracket tokens ||
              Ahead.isGroup .parenthesis tokens))
          pure (.inl
            ⟨left.tokens ++ asWord ++ type.tokens, .operation left.code type.parts, .other⟩)
        else pure (.inr left)) left

/-! ## Operands -/

/-- Expressions with commas between them in a group. -/
def expressionGroup (delimiter : Delimiter) : Parser Piece := do
  let expressions ← inside delimiter (commaList phrases.expression)
  pure (.group delimiter
    (.ofSeparated (expressions.map fun (expression, comma) => (expression.toPiece, comma))))

/-- A parameter of a closure. -/
def closureParameter : Parser Piece := do
  let attributes := attributePiece (← outerAttributes phrases)
  let pattern ← phrases.pattern
  if ← peek (Ahead.isOperator ":") then
    let colon ← operator ":"
    pure (attributes ++ pattern.toPiece ++ .ofTokens colon ++ (← phrases.type true).toPiece)
  else
    match pattern.form, pattern.code with
    | .verbatim, _ => pure pattern.toPiece
    | _, .binding name parts =>
      pure ⟨attributes.tokens ++ pattern.tokens, [.binding name (attributes.parts ++ parts)]⟩
    | _, _ => pure (attributes ++ pattern.toPiece)

/-- A closure; with a result type its body is a block. -/
def closure (braces : Bool) : Parser Operand := do
  let lifetimes ← boundLifetimes phrases
  let constWord ← word? "const"
  let staticWord ← word? "static"
  let asyncWord ← word? "async"
  let moveWord ← word? "move"
  let opening ← operator "|"
  let parameters ← separated "," (Ahead.isOperator "|") (closureParameter phrases)
  let closing ← operator "|"
  let result ← result phrases true
  let body ←
    if result.tokens.isEmpty then
      phrases.operators (← phrases.unary braces) braces .any
    else block phrases
  let parameters := Piece.ofSeparated parameters
  pure ⟨lifetimes.tokens ++ constWord ++ staticWord ++ asyncWord ++ moveWord ++ opening ++
      parameters.tokens ++ closing ++ result.tokens ++ body.tokens,
    .closure (lifetimes.parts ++ parameters.parts ++ result.parts) body.code, .other⟩

/-- A field of a structure expression. -/
def fieldValue : Parser Piece := do
  let attributes := attributePiece (← outerAttributes phrases)
  let (name, member) ← member
  if name.isNone || (← peek (Ahead.isOperator ":")) then
    let colon ← operator ":"
    pure (attributes ++ .ofTokens (member ++ colon) ++ (← phrases.expression).toPiece)
  else pure (attributes ++ .ofTokens member)

/-- The fields of a structure expression, and what fills the others. -/
def fieldValues : Parser Piece :=
  loop (fun (read : Piece) => do
    if ← atEnd then pure (.inr read)
    else if ← peek (Ahead.isOperator "..") then
      let dots ← operator ".."
      let filler ← if ← atEnd then pure .empty else pure (← phrases.expression).toPiece
      pure (.inr (read ++ .ofTokens dots ++ filler))
    else
      let read := read ++ (← fieldValue phrases)
      if ← atEnd then pure (.inr read)
      else pure (.inl (read ++ .ofTokens (← operator ",")))) Piece.empty

/-- An expression that begins with a path: the path, a macro use or a structure. -/
def pathExpression (braces : Bool) : Parser Operand := do
  let (qualifier, path) ← qualifiedPath phrases true
  let piece := qualifier.getD .empty ++ path.toPiece
  if qualifier.isNone && path.isPlain && (← peek isMacroBang) then
    macroUse phrases path
  else if braces && (← peek (Ahead.isGroup .brace)) then
    let fields ← inside .brace (fieldValues phrases)
    pure (plainOperand (piece ++ .group .brace fields))
  else
    pure ⟨piece.tokens, .other piece.parts,
      if qualifier.isNone then .path path.names (path.isWord "self") else .other⟩

/-- `break`, with its label and value. -/
def breakExpression (braces : Bool) : Parser Operand := do
  let breakWord ← word "break"
  let label ← lifetime?
  ensure (label.isEmpty || !(← peek (Ahead.isOperator ":")))
  let hasValue ← peek fun tokens =>
    mayBeginExpression tokens && (braces || !Ahead.isGroup .brace tokens)
  let value ← if hasValue then pure (← phrases.expression).toPiece else pure .empty
  pure (plainOperand (.ofTokens (breakWord ++ label) ++ value))

/-- A word and the value that may follow it. -/
def wordValue (text : String) : Parser Operand := do
  let marker ← word text
  let value ← if ← peek mayBeginExpression then pure (← phrases.expression).toPiece else pure .empty
  pure (plainOperand (.ofTokens marker ++ value))

/-- `become`, kept as it stands in the source. -/
def becomeExpression : Parser Operand := do
  let start ← here
  let _ ← word "become"
  let _ ← phrases.expression
  pure ⟨← since start, .empty, .verbatim⟩

/-- `builtin #`, kept as it stands in the source. -/
def builtinExpression : Parser Operand := do
  let start ← here
  let _ ← word "builtin"
  let _ ← operator "#"
  let _ ← name
  ensure (← peek (Ahead.isGroup .parenthesis))
  let _ ← rawGroup
  pure ⟨← since start, .empty, .verbatim⟩

/-- An expression in brackets: an array, or a value and its count. -/
def arrayExpression : Parser Operand := do
  let content ← inside .bracket do
    if ← atEnd then pure .empty
    else
      let first ← phrases.expression
      if ← peek (Ahead.isOperator ";") then
        let semicolon ← operator ";"
        pure (first.toPiece ++ .ofTokens semicolon ++ (← phrases.expression).toPiece)
      else if ← atEnd then pure first.toPiece
      else
        let comma ← operator ","
        let more ← commaList phrases.expression
        pure (first.toPiece ++ .ofTokens comma ++
          .ofSeparated (more.map fun (expression, comma) => (expression.toPiece, comma)))
  pure (plainOperand (.group .bracket content))

/-- `let` as a condition. -/
def letCondition (braces : Bool) : Parser Operand := do
  let letWord ← word "let"
  let pattern ← phrases.alternatives
  let equals ← operator "="
  let scrutinee ← phrases.operators (← phrases.unary braces) braces .comparison
  pure ⟨letWord ++ pattern.tokens ++ equals ++ scrutinee.tokens,
    .letCondition pattern.code scrutinee.code, .other⟩

/-- Whether a block follows the word at hand, with `move` between them or not. -/
def isBlockWord (word : String) (move : Bool) (tokens : List Token) : Bool :=
  let next := Ahead.next tokens
  Ahead.isWord word tokens && (Ahead.isGroup .brace next ||
    (move && Ahead.isWord "move" next && Ahead.isGroup .brace (Ahead.next next)))

/-- Whether `for` with generics follows, as a closure may begin. -/
def isBinder (tokens : List Token) : Bool :=
  Ahead.isWord "for" tokens && beginsGenerics (Ahead.next tokens)

/-- Whether a closure begins. -/
def beginsClosure (tokens : List Token) : Bool :=
  let next := Ahead.next tokens
  Ahead.isOperator "|" tokens || Ahead.isWord "move" tokens || isBinder tokens ||
    (Ahead.isWord "const" tokens && !Ahead.isGroup .brace next) || Ahead.isWord "static" tokens ||
    (Ahead.isWord "async" tokens && (Ahead.isOperator "|" next || Ahead.isWord "move" next))

/-- `async` or `try` before a block. -/
def markedBlock (word : String) (form : OperandForm) : Parser Operand := do
  let marker ← Parser.word word
  let move ← word? "move"
  let body ← block phrases
  pure ⟨marker ++ move ++ body.tokens, .other [body.code], form⟩

/-- An operand without what precedes and follows it. -/
def atom (braces : Bool) : Parser Operand := do
  let tokens ← here
  let next := Ahead.next tokens
  if Ahead.isLiteral tokens then pure (plainOperand (.ofTokens (← literal)))
  else if isBlockWord "async" true tokens then markedBlock phrases "async" .other
  else if isBlockWord "try" false tokens then markedBlock phrases "try" .blockLike
  else if beginsClosure tokens then closure phrases braces
  else if Ahead.isWord "builtin" tokens && Ahead.isOperator "#" next then builtinExpression
  else if mayBeginPath tokens || (Ahead.isWord "try" tokens &&
      (Ahead.isOperator "!" next || Ahead.isOperator "::" next)) then
    pathExpression phrases braces
  else if Ahead.isGroup .parenthesis tokens then
    pure (plainOperand (← expressionGroup phrases .parenthesis))
  else if Ahead.isWord "break" tokens then breakExpression phrases braces
  else if Ahead.isWord "continue" tokens then
    pure (plainOperand (.ofTokens ((← word "continue") ++ (← lifetime?))))
  else if Ahead.isWord "return" tokens then wordValue phrases "return"
  else if Ahead.isWord "become" tokens then becomeExpression phrases
  else if Ahead.isGroup .bracket tokens then arrayExpression phrases
  else if Ahead.isWord "let" tokens then letCondition phrases braces
  else if Ahead.isWord "if" tokens then conditional phrases
  else if Ahead.isWord "while" tokens then whileLoop phrases
  else if Ahead.isWord "for" tokens then forLoop phrases
  else if Ahead.isWord "loop" tokens then wordBlock phrases "loop"
  else if Ahead.isWord "match" tokens then matchExpression phrases
  else if Ahead.isWord "yield" tokens then wordValue phrases "yield"
  else if Ahead.isWord "unsafe" tokens then wordBlock phrases "unsafe"
  else if Ahead.isWord "const" tokens then constantBlock phrases
  else if Ahead.isGroup .brace tokens then blockExpression phrases
  else if Ahead.isOperator ".." tokens then
    let range ← rangeEnd phrases braces
    pure ⟨range.tokens, .other range.parts, .range⟩
  else if Ahead.isWord "_" tokens then pure (plainOperand (.ofTokens [← anyWord]))
  else labeled phrases

/-! ## What follows and precedes an operand -/

/-- The parts of a literal such as `0.1` as indexes of fields; the truth value tells whether a dot
ends the literal. -/
def fieldIndexes (text : String) : Option (List Token × Bool) := do
  let parts := text.splitOn "."
  let trailing := parts.getLast? == some ""
  let indexes ← (if trailing then parts.dropLast else parts).mapM fun part => do
    match index [.literal part] with
    | some (tokens, []) => some tokens
    | _ => none
  some ([Token.mark '.' false].intercalate indexes, trailing)

/-- The fields that a literal with a decimal point stands for, after the dot in front of it; the
truth value tells whether a member follows. -/
def floatFields (left : Operand) : Parser (Operand × Bool) := do
  match ← here with
  | .literal text :: _ =>
    if Literal.isFloat text then
      let _ ← literal
      match fieldIndexes text with
      | some (indexes, trailing) =>
        pure (plainOperand ⟨left.tokens ++ Token.marks ['.'] ++ indexes, [left.code]⟩, trailing)
      | none => refuse
    else pure (left, true)
  | _ => pure (left, true)

/-- A field, a method or `await`, after the dot in front of it. -/
def memberExpression (left : Operand) : Parser Operand := do
  let dotted := left.tokens ++ Token.marks ['.']
  if ← peek (Ahead.isWord "await") then
    pure (plainOperand ⟨dotted ++ (← word "await"), [left.code]⟩)
  else
    let (name, member) ← member
    let arguments ←
      if name.isSome && (← peek (Ahead.isOperator "::")) then genericArguments phrases
      else pure .empty
    match name with
    | some name =>
      if !arguments.tokens.isEmpty || (← peek (Ahead.isGroup .parenthesis)) then
        let values ← expressionGroup phrases .parenthesis
        let tokens := dotted ++ member ++ arguments.tokens ++ values.tokens
        let onSelf := match left.form with
          | .path _ isSelf => isSelf
          | _ => false
        pure ⟨tokens,
          .method onSelf name tokens (left.code :: arguments.parts ++ values.parts), .other⟩
      else pure (plainOperand ⟨dotted ++ member, [left.code]⟩)
    | none => pure (plainOperand ⟨dotted ++ member, [left.code]⟩)

/-- The calls, members, indexes and question marks that follow an operand. -/
def trailers (left : Operand) : Parser Operand :=
  loop (fun (left : Operand) => do
    let tokens ← here
    let isRange := left.form = .range
    if Ahead.isGroup .parenthesis tokens then
      let values ← expressionGroup phrases .parenthesis
      let tokens := left.tokens ++ values.tokens
      let callee := match left.form with
        | .path segments _ => some segments
        | _ => none
      pure (.inl ⟨tokens, .call callee tokens (left.code :: values.parts), .other⟩)
    else if Ahead.isOperator "." tokens && !Ahead.isOperator ".." tokens && !isRange then
      let _ ← operator "."
      let (left, goesOn) ← floatFields left
      if goesOn then pure (.inl (← memberExpression phrases left)) else pure (.inl left)
    else if Ahead.isGroup .bracket tokens then
      let index ← inside .bracket phrases.expression
      pure (.inl (plainOperand
        ⟨left.tokens ++ [.group .bracket index.tokens], [left.code, index.code]⟩))
    else if Ahead.isOperator "?" tokens && !isRange then
      pure (.inl (plainOperand ⟨left.tokens ++ (← operator "?"), [left.code]⟩))
    else pure (.inr left)) left

/-- A reference, which may be raw. -/
def reference (braces : Bool) : Parser Operand := do
  let ampersand ← operator "&"
  let isRaw ← peek fun tokens =>
    Ahead.isWord "raw" tokens && Ahead.isOneOf ["mut", "const"] (Ahead.next tokens)
  let raw ← if isRaw then word "raw" else pure []
  let mutability ← word? "mut"
  let constant ← if isRaw && mutability.isEmpty then word "const" else pure []
  let operand ← phrases.unary braces
  pure (plainOperand
    ⟨ampersand ++ raw ++ mutability ++ constant ++ operand.tokens, [operand.code]⟩)

/-- An operand with all that precedes and follows it. -/
def unary (braces : Bool) : Parser Operand := do
  let start ← here
  let attributes ← outerAttributes phrases
  let tokens ← here
  let operand ←
    if Ahead.isOperator "&" tokens then reference phrases braces
    else match ["*", "!", "-"].find? (Ahead.isOperator · tokens) with
      | some sign => do
        let marks ← operator sign
        let operand ← phrases.unary braces
        pure (plainOperand ⟨marks ++ operand.tokens, [operand.code]⟩)
      | none => do trailers phrases (← atom phrases braces)
  if operand.form = .verbatim then pure { operand with tokens := ← since start }
  else
    ensure (attributes.isEmpty || operand.form != .range)
    pure (attributed (attributePiece attributes) operand)

/-- An expression. -/
def expression : Parser Operand := do
  phrases.operators (← phrases.unary true) true .any

/-- An expression before a block. -/
def condition : Parser Operand := do
  phrases.operators (← phrases.unary false) false .any

/-- An expression that ends in a block, if one begins. -/
def blockStatement? : Parser (Option Operand) := do
  let tokens ← here
  if Ahead.isWord "if" tokens then some <$> conditional phrases
  else if Ahead.isWord "while" tokens then some <$> whileLoop phrases
  else if Ahead.isWord "for" tokens && !isBinder tokens then some <$> forLoop phrases
  else if Ahead.isWord "loop" tokens then some <$> wordBlock phrases "loop"
  else if Ahead.isWord "match" tokens then some <$> matchExpression phrases
  else if isBlockWord "try" false tokens then some <$> markedBlock phrases "try" .blockLike
  else if Ahead.isWord "unsafe" tokens then some <$> wordBlock phrases "unsafe"
  else if isBlockWord "const" false tokens then some <$> constantBlock phrases
  else if Ahead.isGroup .brace tokens then some <$> blockExpression phrases
  else if Ahead.isLifetime tokens then some <$> labeled phrases
  else pure none

/-- An expression as a statement: after a block only a member or a question mark goes on with it. -/
def statementExpression : Parser Operand := do
  let attributes := attributePiece (← outerAttributes phrases)
  match ← blockStatement? phrases with
  | some operand =>
    if ← peek fun tokens => Ahead.isOperator "?" tokens ||
        (Ahead.isOperator "." tokens && !Ahead.isOperator ".." tokens) then
      let operand ← trailers phrases operand
      phrases.operators (attributed attributes operand) true .any
    else pure (attributed attributes operand)
  | none =>
    let operand ← phrases.unary true
    phrases.operators (attributed attributes operand) true .any

end ShaderCalls.Source.Grammar
