import ShaderCalls.Source.Grammar.Statement
import ShaderCalls.Source.Lexer

/-!
# Files

The grammar as one parser, and the items of a source file.  Each rule reads the phrases in it with
one unit less of a budget that the number of tokens bounds, so reading ends.
-/

namespace ShaderCalls.Source

namespace Grammar

/-- The rule of a phrase, over parsers for the phrases in it. -/
def rule (phrases : Phrases) : Phrases
  | .expression => expression phrases
  | .condition => condition phrases
  | .unary braces => unary phrases braces
  | .operators left braces base => operators phrases left braces base
  | .statementExpression => statementExpression phrases
  | .statements => statements phrases
  | .pattern => pattern phrases
  | .alternatives => alternatives phrases
  | .type plus => type phrases plus
  | .bound capture constant => bound phrases capture constant
  | .useTree rooted => useTree phrases rooted
  | .item => item phrases

/-- Phrases that nest at most as deeply as the budget says. -/
def nested : Nat → Phrases
  | 0 => fun _ => Parser.refuse
  | budget + 1 => rule (nested budget)

/-- The phrases of a list of tokens: a token adds less to their depth than the budget has for it. -/
def ofTokens (tokens : List Token) : Phrases :=
  nested (16 * (Token.sizeList tokens + 2))

/-- The attributes of a file and its items. -/
def fileItems (phrases : Phrases) : Parser (List Item) := do
  let _ ← innerAttributes phrases
  let items ← Parser.untilEnd phrases.item
  pure (items.map (·.item))

end Grammar

/-- A text without the byte order mark that it may begin with. -/
def withoutOrderMark (text : List Char) : List Char :=
  match text with
  | '\ufeff' :: rest => rest
  | text => text

/-- A text without the blanks and comments that it begins with; each round takes a character. -/
def withoutGaps : Nat → List Char → List Char
  | 0, text => text
  | fuel + 1, text =>
    match Lexer.head 1 text with
    | .skipped _ rest => withoutGaps fuel rest
    | _ => text

/-- A text without a first line that names an interpreter, whose end stays.  Such a line begins with
`#!`, and what follows is not the bracket of an attribute. -/
def withoutInterpreterLine (text : List Char) : List Char :=
  match text with
  | '#' :: '!' :: rest =>
    match withoutGaps rest.length rest with
    | '[' :: _ => text
    | _ => rest.dropWhile (· != '\n')
  | text => text

/-- The items of a source file; none unless it is well formed. -/
def Item.ofSource? (text : String) : Option (List Item) := do
  let tokens ← Token.ofText? (withoutInterpreterLine (withoutOrderMark text.toList))
  match Grammar.fileItems (Grammar.ofTokens tokens) tokens with
  | some (items, []) => some items
  | _ => none

end ShaderCalls.Source
