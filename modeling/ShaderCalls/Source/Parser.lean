import ShaderCalls.Source.Code
import ShaderCalls.Source.Literal

/-!
# Parsers over tokens

A parser takes tokens from the front of a list or refuses, so what it leaves is an end of what it
was given.  The tests below look at the tokens at hand without taking any.  The parsers return the
tokens they took in the form in which they are printed: the marks of one operator joined, and
nothing else joined.
-/

namespace ShaderCalls.Source

structure Parser (α : Type) where
  run : List Token → Option (α × List Token)
  isSuffix : ∀ {tokens value rest}, run tokens = some (value, rest) → rest <:+ tokens

namespace Parser

variable {α β : Type}

instance : CoeFun (Parser α) fun _ => List Token → Option (α × List Token) := ⟨run⟩

/-- Takes no tokens, and gives what a function makes of those at hand. -/
def looking (view : List Token → α) : Parser α where
  run tokens := some (view tokens, tokens)
  isSuffix := by
    rintro tokens _ _ ⟨⟩
    exact List.suffix_rfl

/-- Takes as many tokens as a function of those at hand tells. -/
def taking (read : List Token → Option (α × Nat)) : Parser α where
  run tokens := (read tokens).map fun (value, count) => (value, tokens.drop count)
  isSuffix := by
    intro tokens value rest hrun
    obtain ⟨⟨_, count⟩, _, ⟨⟩⟩ := Option.map_eq_some_iff.mp hrun
    exact List.drop_suffix count tokens

/-- Takes what one parser takes, and then what the next takes of the rest. -/
def andThen (parser : Parser α) (next : α → Parser β) : Parser β where
  run tokens := (parser tokens).bind fun (value, rest) => next value rest
  isSuffix := by
    intro tokens value rest hrun
    obtain ⟨⟨first, behind⟩, hfirst, hnext⟩ := Option.bind_eq_some_iff.mp hrun
    exact ((next first).isSuffix hnext).trans (parser.isSuffix hfirst)

instance : Monad Parser where
  pure value := looking fun _ => value
  bind := andThen

/-- Gives none, and takes no tokens, where a parser refuses. -/
def attempt (parser : Parser α) : Parser (Option α) where
  run tokens :=
    match parser tokens with
    | some (value, rest) => some (some value, rest)
    | none => some (none, tokens)
  isSuffix := by
    intro tokens value rest hrun
    split at hrun
    · next found hfound =>
        cases hrun
        exact parser.isSuffix hfound
    · cases hrun
      exact List.suffix_rfl

/-- What one parser gives, or what another reads of the same tokens where the first gives none. -/
def orAgain (first : Parser (Option α)) (second : Parser α) : Parser α where
  run tokens :=
    match first tokens with
    | some (some value, rest) => some (value, rest)
    | some (none, _) => second tokens
    | none => none
  isSuffix := by
    intro tokens value rest hrun
    split at hrun
    · next hfirst =>
        cases hrun
        exact first.isSuffix hfirst
    · exact second.isSuffix hrun
    · contradiction

end Parser

/-- The words that name nothing. -/
def reservedWords : List String :=
  ["_", "abstract", "as", "async", "await", "become", "box", "break", "const", "continue", "crate",
    "do", "dyn", "else", "enum", "extern", "false", "final", "fn", "for", "if", "impl", "in", "let",
    "loop", "macro", "match", "mod", "move", "mut", "override", "priv", "pub", "ref", "return",
    "Self", "self", "static", "struct", "super", "trait", "true", "try", "type", "typeof", "unsafe",
    "unsized", "use", "virtual", "where", "while", "yield"]

/-! ## Looking ahead -/

namespace Ahead

/-- The tokens after the first one, where a lifetime counts as one. -/
def next : List Token → List Token
  | .mark '\'' true :: .word _ _ :: rest => rest
  | _ :: rest => rest
  | [] => []

def isMarks : List Char → List Token → Bool
  | [], _ => true
  | [char], .mark found _ :: _ => char == found
  | char :: chars, .mark found joined :: rest => char == found && joined && isMarks chars rest
  | _, _ => false

/-- Whether the tokens begin with the marks of an operator; more marks may be joined to them. -/
def isOperator (operator : String) (tokens : List Token) : Bool :=
  isMarks operator.toList tokens

def isWord (word : String) : List Token → Bool
  | .word text _ :: _ => text == word
  | _ => false

/-- Whether the tokens begin with a word, reserved or not. -/
def isAnyWord : List Token → Bool
  | .word _ _ :: _ => true
  | _ => false

/-- Whether the tokens begin with a name. -/
def isName : List Token → Bool
  | .word text _ :: _ => !reservedWords.contains text
  | _ => false

def isOneOf (words : List String) : List Token → Bool
  | .word text _ :: _ => words.contains text
  | _ => false

def isLifetime : List Token → Bool
  | .mark '\'' true :: .word _ _ :: _ => true
  | _ => false

def isGroup (delimiter : Delimiter) : List Token → Bool
  | .group found _ :: _ => found = delimiter
  | _ => false

/-- Whether the tokens begin with a literal, a truth value or a negative number. -/
def isLiteral : List Token → Bool
  | .literal _ :: _ => true
  | .word text _ :: _ => text == "true" || text == "false"
  | .mark '-' _ :: .literal text :: _ => Literal.isInteger text || Literal.isFloat text
  | _ => false

def isStringLiteral : List Token → Bool
  | .literal text :: _ => Literal.isString text
  | _ => false

/-- Whether the tokens begin with a segment of a path that stands for a place. -/
def isPathWord (tokens : List Token) : Bool :=
  isOneOf ["self", "Self", "super", "crate"] tokens

end Ahead

namespace Parser

variable {α β : Type}

/-- Whether the tokens at hand pass a test. -/
def peek (test : List Token → Bool) : Parser Bool :=
  looking test

def refuse : Parser α :=
  taking fun _ => none

/-- Refuses unless a condition holds. -/
def ensure (condition : Bool) : Parser Unit :=
  if condition then pure () else refuse

/-- The tokens at hand. -/
def here : Parser (List Token) :=
  looking id

/-- The tokens taken since the tokens at hand were `start`, as they stand in the source. -/
def since (start : List Token) : Parser (List Token) :=
  looking fun tokens => start.take (start.length - tokens.length)

/-- The marks of an operator. -/
def operator (text : String) : Parser (List Token) := taking fun tokens =>
  let marks := text.toList
  if Ahead.isMarks marks tokens then some (Token.marks marks, marks.length) else none

def operator? (text : String) : Parser (List Token) := do
  if ← peek (Ahead.isOperator text) then operator text else pure []

def anyWord : Parser Token := taking fun
  | .word text line :: _ => some (.word text line, 1)
  | _ => none

def word (text : String) : Parser (List Token) := do
  ensure (← peek (Ahead.isWord text))
  pure [← anyWord]

def word? (text : String) : Parser (List Token) := do
  if ← peek (Ahead.isWord text) then word text else pure []

/-- A name: a word that is not reserved. -/
def name : Parser Token := do
  ensure (← peek Ahead.isName)
  anyWord

/-- A name or a lone underscore. -/
def nameOrUnderscore : Parser Token := do
  if ← peek (Ahead.isWord "_") then anyWord else name

def lifetime : Parser (List Token) := taking fun
  | .mark '\'' true :: .word text line :: _ => some ([.mark '\'' true, .word text line], 2)
  | _ => none

def lifetime? : Parser (List Token) := do
  if ← peek Ahead.isLifetime then lifetime else pure []

/-- A literal, a truth value or a negative number. -/
def literal : Parser (List Token) := taking fun
  | .literal text :: _ => some ([.literal text], 1)
  | .word text line :: _ =>
    if text == "true" || text == "false" then some ([.word text line], 1) else none
  | .mark '-' _ :: .literal text :: _ =>
    if Literal.isInteger text || Literal.isFloat text then
      some ([.mark '-' false, .literal text], 2)
    else none
  | _ => none

/-- The index of a field: an integer without a suffix, printed in decimal digits. -/
def index : Parser (List Token) := taking fun
  | .literal text :: _ =>
    if Literal.isInteger text then
      match Literal.plainValue? text with
      | some value =>
        if value < Text.valuesOf 32 then some ([.literal (Nat.repr value)], 1) else none
      | none => none
    else none
  | _ => none

/-- The content of a group, which `parser` must take whole. -/
def inside (delimiter : Delimiter) (parser : Parser α) : Parser α := taking fun
  | .group found content :: _ =>
    if found = delimiter then
      match parser content with
      | some (value, []) => some (value, 1)
      | _ => none
    else none
  | _ => none

/-- A group with its content as it stands in the source. -/
def rawGroup : Parser (Delimiter × List Token) := taking fun
  | .group delimiter content :: _ => some ((delimiter, content), 1)
  | _ => none

def atEnd : Parser Bool :=
  peek List.isEmpty

/-- Whether a test on the tokens at hand holds or there are none. -/
def endsAt (test : List Token → Bool) : Parser Bool :=
  peek fun tokens => tokens.isEmpty || test tokens

/-- Repeats `step`, which goes on with a new state or ends with a result, at most `fuel` times. -/
def iterate (step : α → Parser (α ⊕ β)) : Nat → α → Parser β
  | 0, _ => refuse
  | fuel + 1, state => do
    match ← step state with
    | .inl state => iterate step fuel state
    | .inr result => pure result

/-- Repeats `step`, of which each round but the last takes a token. -/
def loop (step : α → Parser (α ⊕ β)) (start : α) : Parser β := do
  iterate step ((← here).length + 2) start

/-- Takes one part after the other while the tokens at hand pass the test. -/
def whileAhead (test : List Token → Bool) (parser : Parser α) : Parser (List α) :=
  loop (fun parts => do
    if ← peek test then pure (.inl ((← parser) :: parts)) else pure (.inr parts.reverse)) []

/-- Takes one part after the other to the end of the tokens. -/
def untilEnd (parser : Parser α) : Parser (List α) :=
  whileAhead (!·.isEmpty) parser

/-- Parts with a separator between them up to a place where none may begin, each with the separator
after it.  `stop` is asked before each part and before each separator. -/
def separated (separator : String) (stop : List Token → Bool) (parser : Parser α) :
    Parser (List (α × List Token)) :=
  loop (fun parts => do
    if ← peek stop then pure (.inr parts.reverse)
    else
      let part ← parser
      if ← peek stop then pure (.inr ((part, []) :: parts).reverse)
      else pure (.inl ((part, ← operator separator) :: parts))) []

/-- Parts with commas between them to the end of the tokens. -/
def commaList (parser : Parser α) : Parser (List (α × List Token)) :=
  separated "," List.isEmpty parser

end Parser

end ShaderCalls.Source
