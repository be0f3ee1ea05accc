/-!
# Tokens of Rust source text

A source file is a list of token trees: words, punctuation marks, literals and delimited groups.
`Token.render` prints a list of them in the one spacing that every text shown to the user has:
tokens stand one blank apart, except after a mark that is joined to the next token.
-/

namespace ShaderCalls.Source

inductive Delimiter where
  | parenthesis
  | bracket
  | brace
  deriving DecidableEq, Repr

def Delimiter.opening : Delimiter → Char
  | .parenthesis => '('
  | .bracket => '['
  | .brace => '{'

def Delimiter.closing : Delimiter → Char
  | .parenthesis => ')'
  | .bracket => ']'
  | .brace => '}'

/-- The delimiter that a character opens. -/
def Delimiter.ofOpening? : Char → Option Delimiter
  | '(' => some .parenthesis
  | '[' => some .bracket
  | '{' => some .brace
  | _ => none

/-- The delimiter that a character closes. -/
def Delimiter.ofClosing? : Char → Option Delimiter
  | ')' => some .parenthesis
  | ']' => some .bracket
  | '}' => some .brace
  | _ => none

inductive Token where
  /-- An identifier or keyword, with the line it starts on. -/
  | word (text : String) (line : Nat)
  /-- One punctuation character; `joined` when it belongs to the token that follows. -/
  | mark (char : Char) (joined : Bool)
  /-- A literal in the spelling of the source. -/
  | literal (text : String)
  | group (delimiter : Delimiter) (content : List Token)
  deriving Repr

namespace Token

mutual

/-- The number of tokens in a tree, counting a group itself and all that it holds. -/
def size : Token → Nat
  | .group _ content => sizeList content + 1
  | _ => 1

/-- The number of tokens in a list of trees. -/
def sizeList : List Token → Nat
  | [] => 0
  | token :: rest => token.size + sizeList rest

end

/-- No blank follows a joined mark. -/
def joins : Token → Bool
  | .mark _ joined => joined
  | _ => false

mutual

/-- The pieces of text that make up one printed token. -/
def pieces : Token → List String
  | .word text _ => [text]
  | .mark char _ => [char.toString]
  | .literal text => [text]
  | .group .parenthesis content => "(" :: (piecesList content ++ [")"])
  | .group .bracket content => "[" :: (piecesList content ++ ["]"])
  | .group .brace [] => ["\x7b \x7d"]
  | .group .brace content => "\x7b " :: (piecesList content ++ [" \x7d"])

/-- The pieces of text that make up a printed list of tokens. -/
def piecesList : List Token → List String
  | [] => []
  | [token] => token.pieces
  | token :: next :: rest =>
    let tail := piecesList (next :: rest)
    token.pieces ++ (if token.joins then tail else " " :: tail)

end

/-- The printed form of a list of tokens. -/
def render (tokens : List Token) : String :=
  String.join (piecesList tokens)

/-- The marks of an operator, joined to one another and free of what follows. -/
def marks : List Char → List Token
  | [] => []
  | [char] => [.mark char false]
  | char :: rest => .mark char true :: marks rest

/-- Whether a list of tokens ends in a group in braces. -/
def endsInBrace (tokens : List Token) : Bool :=
  match tokens.getLast? with
  | some (.group .brace _) => true
  | _ => false

end Token

end ShaderCalls.Source
