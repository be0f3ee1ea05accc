import ShaderCalls.Toml.Value

/-!
# Characters and lines of TOML

A line ends in a line feed, with or without a carriage return, and may end in a comment.
-/

namespace ShaderCalls.Toml

/-- Reads something from the front of a text; none if the text does not begin with it. -/
abbrev Reader (α : Type) :=
  List Char → Option (α × List Char)

def isBlank (char : Char) : Bool :=
  char == ' ' || char == '\t'

/-- A character that a comment or a text may hold as it is. -/
def isPrintable (char : Char) : Bool :=
  char == '\t' || (0x20 ≤ char.toNat && char.toNat != 0x7f)

def skipBlanks (text : List Char) : List Char :=
  text.dropWhile isBlank

/-- What follows the end of a line. -/
def lineBreak? : List Char → Option (List Char)
  | '\n' :: rest => some rest
  | '\r' :: '\n' :: rest => some rest
  | _ => none

/-- What follows a comment that the text may begin with. -/
def skipComment : List Char → List Char
  | '#' :: rest => rest.dropWhile isPrintable
  | text => text

/-- What follows a line of which nothing but blanks and a comment is left. -/
def endOfLine? (text : List Char) : Option (List Char) :=
  match skipComment (skipBlanks text) with
  | [] => some []
  | text => lineBreak? text

/-- Skips blanks, line breaks and whole comments; `inComment` holds within a comment. -/
def skipGaps (inComment : Bool) : List Char → List Char
  | '\n' :: rest => skipGaps false rest
  | '\r' :: '\n' :: rest => skipGaps false rest
  | char :: rest =>
    if inComment then if isPrintable char then skipGaps true rest else char :: rest
    else if isBlank char then skipGaps false rest
    else if char == '#' then skipGaps true rest
    else char :: rest
  | [] => []

end ShaderCalls.Toml
