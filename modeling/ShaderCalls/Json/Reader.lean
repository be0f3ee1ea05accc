import ShaderCalls.Json.Value
import ShaderCalls.Text.Digits

/-!
# Reading JSON

`Json.read?` reads a text that is one value with blanks around it.  Numbers keep their spelling,
and values may nest up to a limit.
-/

namespace ShaderCalls.Json

/-- Characters that may stand between the parts of a value. -/
def isGap (char : Char) : Bool :=
  char == ' ' || char == '\t' || char == '\n' || char == '\r'

def skipGaps (text : List Char) : List Char :=
  text.dropWhile isGap

/-! ## Strings -/

/-- The number of four hexadecimal digits. -/
def hexWord? (first second third fourth : Char) : Option Nat :=
  [first, second, third, fourth].foldlM
    (fun value char => (Text.hexValue? char).map (16 * value + ·)) 0

/-- The character that an escape of one letter stands for. -/
def escaped? : Char → Option Char
  | '"' => some '"'
  | '\\' => some '\\'
  | '/' => some '/'
  | 'b' => some '\x08'
  | 'f' => some '\x0c'
  | 'n' => some '\n'
  | 'r' => some '\r'
  | 't' => some '\t'
  | _ => none

/-- The character of two numbers that stand for one beyond `0xffff`. -/
def pair? (high low : Nat) : Option Char :=
  if 0xdc00 ≤ low && low ≤ 0xdfff then
    some (Char.ofNat (0x10000 + 0x400 * (high - 0xd800) + (low - 0xdc00)))
  else none

/-- The characters of a string after its opening quote, and the text after its closing quote. -/
def readCharacters : List Char → Option (List Char × List Char)
  | '"' :: rest => some ([], rest)
  | '\\' :: 'u' :: a :: b :: c :: d :: rest =>
    match hexWord? a b c d with
    | none => none
    | some code =>
      if Text.isScalar code then do
        let (characters, rest) ← readCharacters rest
        some (Char.ofNat code :: characters, rest)
      else if 0xdc00 ≤ code then none
      else
        match rest with
        | '\\' :: 'u' :: e :: f :: g :: h :: rest =>
          match (hexWord? e f g h).bind (pair? code) with
          | none => none
          | some char => do
            let (characters, rest) ← readCharacters rest
            some (char :: characters, rest)
        | _ => none
  | '\\' :: letter :: rest =>
    match escaped? letter with
    | none => none
    | some char => do
      let (characters, rest) ← readCharacters rest
      some (char :: characters, rest)
  | char :: rest =>
    if char.toNat < 0x20 || char == '\\' then none
    else do
      let (characters, rest) ← readCharacters rest
      some (char :: characters, rest)
  | [] => none

/-! ## Numbers -/

/-- One or more digits, and the text after them. -/
def readDigits (text : List Char) : Option (List Char × List Char) :=
  let digits := text.takeWhile Char.isDigit
  if digits.isEmpty then none else some (digits, text.dropWhile Char.isDigit)

/-- The digits before the point: a zero stands alone. -/
def readWhole : List Char → Option (List Char × List Char)
  | '0' :: rest => some (['0'], rest)
  | text => readDigits text

/-- The point and the digits after it, if there is one. -/
def readFraction : List Char → Option (List Char × List Char)
  | '.' :: rest => do
    let (digits, rest) ← readDigits rest
    some ('.' :: digits, rest)
  | text => some ([], text)

/-- The sign in front of an exponent, if there is one. -/
def readSign : List Char → List Char × List Char
  | '+' :: rest => (['+'], rest)
  | '-' :: rest => (['-'], rest)
  | text => ([], text)

/-- The exponent, if there is one. -/
def readExponent : List Char → Option (List Char × List Char)
  | letter :: rest =>
    if letter == 'e' || letter == 'E' then do
      let (sign, rest) := readSign rest
      let (digits, rest) ← readDigits rest
      some (letter :: (sign ++ digits), rest)
    else some ([], letter :: rest)
  | [] => some ([], [])

/-- The spelling of a number without its sign. -/
def readMagnitude (text : List Char) : Option (List Char × List Char) := do
  let (whole, rest) ← readWhole text
  let (fraction, rest) ← readFraction rest
  let (exponent, rest) ← readExponent rest
  some (whole ++ fraction ++ exponent, rest)

/-- The spelling of a number. -/
def readNumber : List Char → Option (List Char × List Char)
  | '-' :: rest => do
    let (spelling, rest) ← readMagnitude rest
    some ('-' :: spelling, rest)
  | text => readMagnitude text

/-! ## Values -/

/-- A value that holds no other. -/
def readScalar : List Char → Option (Json × List Char)
  | 'n' :: 'u' :: 'l' :: 'l' :: rest => some (.null, rest)
  | 't' :: 'r' :: 'u' :: 'e' :: rest => some (.bool true, rest)
  | 'f' :: 'a' :: 'l' :: 's' :: 'e' :: rest => some (.bool false, rest)
  | '"' :: rest => do
    let (characters, rest) ← readCharacters rest
    some (.string (String.ofList characters), rest)
  | text => do
    let (spelling, rest) ← readNumber text
    some (.number spelling, rest)

variable {α : Type}

/-- One or more items with commas between them up to `close`; `fuel` bounds their number. -/
def readItems (item : List Char → Option (α × List Char)) (close : Char) :
    Nat → List Char → Option (List α × List Char)
  | 0, _ => none
  | fuel + 1, text => do
    let (first, rest) ← item text
    match skipGaps rest with
    | ',' :: rest => do
      let (others, rest) ← readItems item close fuel rest
      some (first :: others, rest)
    | char :: rest => if char = close then some ([first], rest) else none
    | [] => none

/-- Items with commas between them up to `close`, after their opening bracket. -/
def readSequence (item : List Char → Option (α × List Char)) (close : Char) (text : List Char) :
    Option (List α × List Char) :=
  match skipGaps text with
  | char :: rest => if char = close then some ([], rest) else readItems item close text.length text
  | [] => none

/-- A member of an object. -/
def readMember (value : List Char → Option (Json × List Char)) (text : List Char) :
    Option ((String × Json) × List Char) :=
  match skipGaps text with
  | '"' :: rest => do
    let (characters, rest) ← readCharacters rest
    match skipGaps rest with
    | ':' :: rest => do
      let (value, rest) ← value rest
      some ((String.ofList characters, value), rest)
    | _ => none
  | _ => none

/-- A value in which at most `depth` arrays and objects hold one another. -/
def readValue : Nat → List Char → Option (Json × List Char)
  | 0, text => readScalar (skipGaps text)
  | depth + 1, text =>
    match skipGaps text with
    | '[' :: rest => do
      let (elements, rest) ← readSequence (readValue depth) ']' rest
      some (.array elements, rest)
    | '\x7b' :: rest => do
      let (members, rest) ← readSequence (readMember (readValue depth)) '\x7d' rest
      some (.object members, rest)
    | text => readScalar text

/-- The greatest number of arrays and objects that hold one another. -/
def depthLimit : Nat :=
  127

/-- The value that a text stands for. -/
def read? (text : String) : Option Json := do
  let (value, rest) ← readValue depthLimit text.toList
  if (skipGaps rest).isEmpty then some value else none

end ShaderCalls.Json
