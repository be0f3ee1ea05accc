import ShaderCalls.Source.Parser

/-!
# Phrases

The nonterminals of the grammar, and what reading each of them gives: the tokens as they are
printed, the code, and the facts about the form on which the grammar around it depends.  The rules
of the grammar are written over `Phrases`, a parser for each nonterminal, so that no rule is
recursive by itself.
-/

namespace ShaderCalls.Source

/-- Tokens that were read, and the code in them. -/
structure Piece where
  tokens : List Token
  parts : List Code

namespace Piece

def empty : Piece := ⟨[], []⟩

/-- A piece without code. -/
def ofTokens (tokens : List Token) : Piece :=
  ⟨tokens, []⟩

def append (left right : Piece) : Piece :=
  ⟨left.tokens ++ right.tokens, left.parts ++ right.parts⟩

instance : Append Piece := ⟨append⟩

def join (pieces : List Piece) : Piece :=
  pieces.foldr (· ++ ·) empty

/-- The pieces of a list with the separator after each. -/
def ofSeparated (pieces : List (Piece × List Token)) : Piece :=
  join (pieces.map fun (piece, separator) => piece ++ ofTokens separator)

def group (delimiter : Delimiter) (content : Piece) : Piece :=
  ⟨[.group delimiter content.tokens], content.parts⟩

end Piece

/-- How tightly an operator binds, loosest first. -/
inductive Precedence where
  | any
  | assignment
  | range
  | or
  | and
  | condition
  | comparison
  | bitOr
  | bitXor
  | bitAnd
  | shift
  | sum
  | product
  | cast
  deriving DecidableEq

def Precedence.rank : Precedence → Nat
  | .any => 0
  | .assignment => 1
  | .range => 2
  | .or => 3
  | .and => 4
  | .condition => 5
  | .comparison => 6
  | .bitOr => 7
  | .bitXor => 8
  | .bitAnd => 9
  | .shift => 10
  | .sum => 11
  | .product => 12
  | .cast => 13

/-- The form of an expression. -/
inductive OperandForm where
  /-- A path without a qualifying type; `isSelf` when it is the word `self` alone. -/
  | path (segments : List String) (isSelf : Bool)
  | range
  | comparison
  /-- An expression that is a statement without a semicolon. -/
  | blockLike
  | macroUse (braces : Bool)
  /-- An expression kept as it stands in the source. -/
  | verbatim
  | other
  deriving DecidableEq

/-- An expression that was read. -/
structure Operand where
  tokens : List Token
  code : Code
  form : OperandForm

def Operand.toPiece (operand : Operand) : Piece :=
  ⟨operand.tokens, [operand.code]⟩

structure Segment where
  name : String
  /-- Whether generic arguments follow the name. -/
  hasArguments : Bool

/-- A path that was read. -/
structure PathOperand extends Piece where
  rooted : Bool
  segments : List Segment

namespace PathOperand

def names (path : PathOperand) : List String :=
  path.segments.map (·.name)

/-- Whether no segment has arguments. -/
def isPlain (path : PathOperand) : Bool :=
  path.segments.all (!·.hasArguments)

/-- Whether the path is one word without arguments. -/
def isWord (path : PathOperand) (word : String) : Bool :=
  !path.rooted && path.isPlain && path.names == [word]

end PathOperand

/-- The form of a type. -/
inductive TypeForm where
  | path (path : PathOperand)
  | qualifiedPath (segments : List String)
  /-- Bounds without the word `dyn`; `single` when there is one bound and no plus after it. -/
  | bounds (single : Bool)
  | emptyTuple
  | other

/-- A type that was read. -/
structure TypeOperand extends Piece where
  written : TypeExpr
  form : TypeForm

inductive BoundForm where
  | lifetime
  /-- `use<..>` -/
  | capture
  | trait
  /-- A trait after `const`, kept as it stands in the source. -/
  | verbatim
  deriving DecidableEq

/-- A bound that was read. -/
structure BoundOperand extends Piece where
  form : BoundForm

inductive PatternForm where
  | binding (name : String)
  /-- `..` -/
  | rest
  /-- A range that has no start or no end. -/
  | openRange
  | verbatim
  | other

/-- A pattern that was read. -/
structure PatternOperand where
  tokens : List Token
  code : Code
  form : PatternForm

def PatternOperand.toPiece (pattern : PatternOperand) : Piece :=
  ⟨pattern.tokens, [pattern.code]⟩

/-- Statements that were read. -/
structure Statements where
  tokens : List Token
  statements : List Code

/-- An item that was read. -/
structure ItemOperand where
  tokens : List Token
  item : Item

/-- A `use` tree that was read; no tree when one of its paths is rooted inside a group. -/
structure UseOperand where
  tokens : List Token
  tree : Option UseTree

/-- The nonterminals of the grammar. -/
inductive Phrase where
  | expression
  /-- An expression before a block: braces do not belong to it. -/
  | condition
  | unary (braces : Bool)
  /-- The operators of at least a precedence that follow an operand. -/
  | operators (left : Operand) (braces : Bool) (base : Precedence)
  /-- An expression as a statement: one that ends in a block goes no further than that block. -/
  | statementExpression
  | statements
  | pattern
  /-- A pattern that may have alternatives. -/
  | alternatives
  | type (plus : Bool)
  /-- A bound, which may be a capture or a trait after `const`. -/
  | bound (capture constant : Bool)
  | useTree (rooted : Bool)
  | item

@[reducible] def Phrase.Result : Phrase → Type
  | .expression | .condition | .unary _ | .operators .. | .statementExpression => Operand
  | .statements => Statements
  | .pattern | .alternatives => PatternOperand
  | .type _ => TypeOperand
  | .bound .. => BoundOperand
  | .useTree _ => UseOperand
  | .item => ItemOperand

/-- A parser for each nonterminal. -/
abbrev Phrases := (phrase : Phrase) → Parser phrase.Result

namespace Phrases

variable (phrases : Phrases)

def expression : Parser Operand := phrases .expression
def condition : Parser Operand := phrases .condition
def unary (braces : Bool) : Parser Operand := phrases (.unary braces)
def operators (left : Operand) (braces : Bool) (base : Precedence) : Parser Operand :=
  phrases (.operators left braces base)
def statementExpression : Parser Operand := phrases .statementExpression
def statements : Parser Statements := phrases .statements
def pattern : Parser PatternOperand := phrases .pattern
def alternatives : Parser PatternOperand := phrases .alternatives
def type (plus : Bool) : Parser TypeOperand := phrases (.type plus)
def bound (capture constant : Bool) : Parser BoundOperand := phrases (.bound capture constant)
def useTree (rooted : Bool) : Parser UseOperand := phrases (.useTree rooted)
def item : Parser ItemOperand := phrases .item

end Phrases

end ShaderCalls.Source
