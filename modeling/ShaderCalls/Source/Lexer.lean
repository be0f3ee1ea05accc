import ShaderCalls.Source.Literal
import ShaderCalls.Source.Token
import ShaderCalls.Text.Quoted

/-!
# From text to tokens

`Token.ofText?` splits the text of a file into token trees, or finds that the text is no sequence
of tokens.  Comments vanish; a documentation comment becomes the attribute that it stands for.
-/

namespace ShaderCalls.Source

open ShaderCalls.Text
open Literal (Split)

namespace Lexer

/-- White space between tokens: also the two marks that set the direction of the text. -/
def isGap (char : Char) : Bool :=
  isBlank char || char == '\u200e' || char == '\u200f'

/-- The number of lines that a text ends. -/
def lineBreaks (text : List Char) : Nat :=
  text.count '\n'

/-- The text up to the end of the line, without the line break. -/
def line : List Char → Split
  | [] => ⟨[], []⟩
  | '\n' :: rest => ⟨[], '\n' :: rest⟩
  | '\r' :: '\n' :: rest => ⟨[], '\n' :: rest⟩
  | char :: rest => (line rest).after [char]

/-- A block comment whose opening is read, with `depth` comments open around the inner ones, up to
the text after its end.  The closing mark is not part of the taken text. -/
def blockComment (depth : Nat) : List Char → Option Split
  | '/' :: '*' :: rest => (blockComment (depth + 1) rest).map (·.after ['/', '*'])
  | '*' :: '/' :: rest =>
    match depth with
    | 0 => some ⟨[], rest⟩
    | depth + 1 => (blockComment depth rest).map (·.after ['*', '/'])
  | char :: rest => (blockComment depth rest).map (·.after [char])
  | [] => none

/-- Whether every carriage return is followed by a line feed. -/
def pairedReturns : List Char → Bool
  | '\r' :: '\n' :: rest => pairedReturns rest
  | '\r' :: _ => false
  | _ :: rest => pairedReturns rest
  | [] => true

/-- The attribute that a documentation comment stands for. -/
def documentation (inner : Bool) (comment : List Char) (line : Nat) : List Token :=
  .mark '#' false :: ((if inner then [.mark '!' false] else []) ++
    [.group .bracket [.word "doc" line, .mark '=' false, .literal (quote comment)]])

def isMark (char : Char) : Bool :=
  "~!@#$%^&*-=+|;:,<.>/?'".toList.contains char

/-- Whether the text begins with a punctuation mark; the slash of a comment is none. -/
def beginsWithMark : List Char → Bool
  | '/' :: '/' :: _ | '/' :: '*' :: _ => false
  | char :: _ => isMark char
  | [] => false

/-- Words that have no raw form. -/
def refusesRaw (name : List Char) : Bool :=
  ["_", "super", "self", "Self", "crate"].contains (String.ofList name)

/-- An identifier, raw or not. -/
def identifier? (text : List Char) : Option Split :=
  match text with
  | 'r' :: '#' :: rest =>
    (Literal.identifier? rest).bind fun name =>
      if refusesRaw name.taken then none else some (name.after ['r', '#'])
  | text => Literal.identifier? text

/-- Openings of literals, which are never read as a word followed by something else. -/
def opensLiteral (text : List Char) : Bool :=
  ["r\"", "r#\"", "r##", "b\"", "b'", "br\"", "br#", "c\"", "cr\"", "cr#"].any
    (·.toList.isPrefixOf text)

/-- A punctuation mark.  An apostrophe is one when it begins a lifetime. -/
def mark? (text : List Char) : Option (Token × List Char) :=
  match text with
  | '\'' :: rest =>
    (identifier? rest).bind fun name =>
      match name.rest with
      | '\'' :: _ => none
      | '#' :: _ => if "r#".toList.isPrefixOf rest then some (.mark '\'' true, rest) else none
      | _ => some (.mark '\'' true, rest)
  | char :: rest =>
    if beginsWithMark text then some (.mark char (beginsWithMark rest), rest) else none
  | [] => none

/-- A token that is no group, the text it is read from and the text after it. -/
def leaf? (line : Nat) (text : List Char) : Option (Token × Split) :=
  match Literal.scan? text with
  | some split => some (.literal (String.ofList split.taken), split)
  | none =>
    match mark? text with
    | some (token, rest) => some (token, ⟨text.take 1, rest⟩)
    | none =>
      if opensLiteral text then none
      else (identifier? text).map fun split => (.word (String.ofList split.taken) line, split)

/-- What stands at the head of a text: nothing that counts, or tokens. -/
inductive Item where
  | finished
  /-- Text that holds no token, by the number of lines it ends. -/
  | skipped (lines : Nat) (rest : List Char)
  | tokens (tokens : List Token) (lines : Nat) (rest : List Char)
  | opens (delimiter : Delimiter) (rest : List Char)
  | closes (delimiter : Delimiter) (rest : List Char)
  | invalid

/-- The documentation comment in a text that is read from `split`. -/
def documentationItem (inner : Bool) (atLine : Nat) (split : Split) : Item :=
  if pairedReturns split.taken then
    .tokens (documentation inner split.taken atLine) (lineBreaks split.taken) split.rest
  else
    .invalid

def blockItem (split : Option Split) (use : Split → Item) : Item :=
  match split with
  | some split => use split
  | none => .invalid

def skipComment (split : Split) : Item :=
  .skipped (lineBreaks split.taken) split.rest

/-- What stands at the head of a text. -/
def head (atLine : Nat) (text : List Char) : Item :=
  match text with
  | [] => .finished
  | '/' :: '/' :: '/' :: '/' :: rest => skipComment (line rest)
  | '/' :: '/' :: '/' :: rest => documentationItem false atLine (line rest)
  | '/' :: '/' :: '!' :: rest => documentationItem true atLine (line rest)
  | '/' :: '/' :: rest => skipComment (line rest)
  | '/' :: '*' :: '*' :: '/' :: rest => .skipped 0 rest
  | '/' :: '*' :: '*' :: '*' :: _ => blockItem (blockComment 0 (text.drop 2)) skipComment
  | '/' :: '*' :: '*' :: rest => blockItem (blockComment 0 rest) (documentationItem false atLine)
  | '/' :: '*' :: '!' :: rest => blockItem (blockComment 0 rest) (documentationItem true atLine)
  | '/' :: '*' :: rest => blockItem (blockComment 0 rest) skipComment
  | char :: rest =>
    if isGap char then .skipped (if char == '\n' then 1 else 0) rest
    else
      match Delimiter.ofOpening? char, Delimiter.ofClosing? char with
      | some delimiter, _ => .opens delimiter rest
      | none, some delimiter => .closes delimiter rest
      | none, none =>
        match leaf? atLine text with
        | some (token, split) => .tokens [token] (lineBreaks split.taken) split.rest
        | none => .invalid

/-- Reads a whole text.  `tokens` are those of the innermost open group, last first, and `opened`
holds for each open group its delimiter and the tokens before it, last first.  Each round takes at
least one character, so `fuel` is the length of the text. -/
def read (fuel : Nat) (atLine : Nat) (opened : List (Delimiter × List Token)) (tokens : List Token)
    (text : List Char) : Option (List Token) :=
  match fuel with
  | 0 => none
  | fuel + 1 =>
    match head atLine text with
    | .finished => if opened.isEmpty then some tokens.reverse else none
    | .skipped lines rest => read fuel (atLine + lines) opened tokens rest
    | .tokens more lines rest => read fuel (atLine + lines) opened (more.reverse ++ tokens) rest
    | .opens delimiter rest => read fuel atLine ((delimiter, tokens) :: opened) [] rest
    | .closes delimiter rest =>
      match opened with
      | (expected, before) :: opened =>
        if expected = delimiter then
          read fuel atLine opened (.group delimiter tokens.reverse :: before) rest
        else none
      | [] => none
    | .invalid => none

end Lexer

/-- The tokens of a text, after the byte order mark that it may begin with. -/
def Token.ofText? (text : List Char) : Option (List Token) :=
  let text := match text with
    | '\ufeff' :: rest => rest
    | text => text
  Lexer.read (text.length + 1) 1 [] [] text

end ShaderCalls.Source
