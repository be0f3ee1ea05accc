import ShaderCalls.Text.Digits
import ShaderCalls.Toml.Line

/-!
# Texts in TOML

A text stands in quotes, in which a backslash begins an escape, or in apostrophes, in which every
character stands for itself.  Three quotes or apostrophes enclose a text of several lines.
-/

namespace ShaderCalls.Toml

/-- The character of a number in hexadecimal digits. -/
def character? (digits : List Char) : Option Char := do
  let code ← digits.foldlM (fun value char => (Text.hexValue? char).map (16 * value + ·)) 0
  if Text.isScalar code then some (Char.ofNat code) else none

/-- The character that an escape of one letter stands for. -/
def escaped? : Char → Option Char
  | 'b' => some '\x08'
  | 't' => some '\t'
  | 'n' => some '\n'
  | 'f' => some '\x0c'
  | 'r' => some '\r'
  | '"' => some '"'
  | '\\' => some '\\'
  | _ => none

/-- Puts a character in front of those that are read after it. -/
def before (char : Char) (read : Option (List Char × List Char)) : Option (List Char × List Char) :=
  read.map fun (characters, rest) => (char :: characters, rest)

/-- The quotes that belong to a text of several lines where it ends, and what follows it; `text` is
what stands after the first of the quotes there. -/
def closing? (quote : Char) (text : List Char) : Option (List Char × List Char) :=
  let quotes := 1 + (text.takeWhile (· == quote)).length
  if quotes < 3 then none
  else some (List.replicate (min quotes 5 - 3) quote, text.drop (min quotes 5 - 1))

/-- The characters of a text after its opening quote or quotes.  `block` tells a text of several
lines, and `joining` that an escaped line break has been read, after which the white space at the
front of the lines does not count. -/
def readQuoted (block joining : Bool) : Reader (List Char)
  | [] => none
  | '\\' :: 'u' :: a :: b :: c :: d :: rest =>
    (character? [a, b, c, d]).bind fun char => before char (readQuoted block false rest)
  | '\\' :: 'U' :: a :: b :: c :: d :: e :: f :: g :: h :: rest =>
    (character? [a, b, c, d, e, f, g, h]).bind fun char => before char (readQuoted block false rest)
  | '\\' :: letter :: rest =>
    if block && (lineBreak? (skipBlanks (letter :: rest))).isSome then
      readQuoted block true (letter :: rest)
    else (escaped? letter).bind fun char => before char (readQuoted block false rest)
  | '"' :: rest =>
    if block then
      match closing? '"' rest with
      | some ending => some ending
      | none => before '"' (readQuoted block false rest)
    else some ([], rest)
  | '\r' :: '\n' :: rest =>
    if !block then none
    else if joining then readQuoted block true rest
    else before '\n' (readQuoted block false rest)
  | char :: rest =>
    if joining && (isBlank char || char == '\n') then readQuoted block true rest
    else if isPrintable char && char != '\\' || (block && char == '\n') then
      before char (readQuoted block false rest)
    else none

/-- The characters of a text of several lines after its opening apostrophes. -/
def readLiteralBlock : Reader (List Char)
  | [] => none
  | '\'' :: rest =>
    match closing? '\'' rest with
    | some ending => some ending
    | none => before '\'' (readLiteralBlock rest)
  | '\r' :: '\n' :: rest => before '\n' (readLiteralBlock rest)
  | char :: rest =>
    if isPrintable char || char == '\n' then before char (readLiteralBlock rest) else none

/-- The characters of a text after its opening apostrophe. -/
def readLiteral : Reader (List Char)
  | [] => none
  | '\'' :: rest => some ([], rest)
  | char :: rest => if isPrintable char then before char (readLiteral rest) else none

/-- A text of one line. -/
def readLine : Reader (List Char)
  | '"' :: rest => readQuoted false false rest
  | '\'' :: rest => readLiteral rest
  | _ => none

/-- What follows the line break that a text of several lines may begin with. -/
def afterLineBreak (text : List Char) : List Char :=
  (lineBreak? text).getD text

/-- A text in any of its four forms. -/
def readText : Reader (List Char)
  | '"' :: '"' :: '"' :: rest => readQuoted true false (afterLineBreak rest)
  | '\'' :: '\'' :: '\'' :: rest => readLiteralBlock (afterLineBreak rest)
  | text => readLine text

end ShaderCalls.Toml
