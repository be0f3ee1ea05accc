import ShaderCalls.Text.Character
import ShaderCalls.Text.Digits

/-!
# Literals

Each scanner takes the characters at hand and, when they begin with a literal of its kind, splits
them into the spelling of that literal and what follows.  A quoted literal is read by an automaton
that sees one character at a time, so that a whole literal is one structural recursion.
-/

namespace ShaderCalls.Source.Literal

open ShaderCalls.Text

/-- The text read and the text that follows it. -/
structure Split where
  taken : List Char
  rest : List Char

/-- Puts characters that were read earlier in front. -/
def Split.after (read : List Char) (split : Split) : Split :=
  ⟨read ++ split.taken, split.rest⟩

/-- The longest run of characters that satisfy `accept`. -/
def run (accept : Char → Bool) (text : List Char) : Split :=
  ⟨text.takeWhile accept, text.dropWhile accept⟩

/-- An identifier that is not raw. -/
def identifier? (text : List Char) : Option Split :=
  match text with
  | char :: rest =>
    if startsIdentifier char then some ((run continuesIdentifier rest).after [char]) else none
  | [] => none

/-- The suffix that any literal may have. -/
def suffix (text : List Char) : Split :=
  (identifier? text).getD ⟨[], text⟩

/-- Adds the suffix that follows the part of a literal read so far. -/
def Split.withSuffix (split : Split) : Split :=
  (suffix split.rest).after split.taken

/-- The three kinds of text in double quotes. -/
inductive TextKind where
  | string
  | bytes
  | cString
  deriving DecidableEq

/-- What the next character of a quoted text has to complete. -/
inductive TextState where
  /-- Nothing: any character of the text may follow. -/
  | plain
  /-- A carriage return, which only a line feed may follow. -/
  | carriageReturn
  /-- A backslash. -/
  | escape
  /-- An escape by two digits, of which none is read. -/
  | firstDigit
  /-- An escape by two digits, of which one is read. -/
  | secondDigit (first : Char)
  /-- An escape by number before its opening brace. -/
  | openNumber
  /-- An escape by number of which `digits` digits are read. -/
  | number (digits value : Nat)
  /-- An escaped line break and the white space after it; `carriage` asks for a line feed. -/
  | lineBreak (carriage : Bool)

inductive TextStep where
  | next (state : TextState)
  | close
  | reject

namespace TextKind

/-- An unescaped character of a quoted text. -/
def plainStep (kind : TextKind) (char : Char) : TextStep :=
  match char with
  | '"' => .close
  | '\r' => .next .carriageReturn
  | '\\' => .next .escape
  | char =>
    match kind with
    | string => .next .plain
    | bytes => if char.toNat < 0x80 then .next .plain else .reject
    | cString => if char == '\x00' then .reject else .next .plain

/-- The character after a backslash. -/
def escapeStep (kind : TextKind) (char : Char) : TextStep :=
  match char with
  | 'x' => .next .firstDigit
  | 'n' | 'r' | 't' | '\\' | '\'' | '"' => .next .plain
  | '0' => if kind = .cString then .reject else .next .plain
  | 'u' => if kind = .bytes then .reject else .next .openNumber
  | '\n' => .next (.lineBreak false)
  | '\r' => .next (.lineBreak true)
  | _ => .reject

/-- The first digit of an escape by two digits; a string holds ASCII by such an escape. -/
def firstDigitStep (kind : TextKind) (char : Char) : TextStep :=
  match hexValue? char with
  | some value => if kind = .string && 8 ≤ value then .reject else .next (.secondDigit char)
  | none => .reject

/-- The second digit of an escape by two digits. -/
def secondDigitStep (kind : TextKind) (first char : Char) : TextStep :=
  match hexValue? char with
  | some _ => if kind = .cString && first == '0' && char == '0' then .reject else .next .plain
  | none => .reject

/-- A character inside the braces of an escape by number: at most six digits. -/
def numberStep (kind : TextKind) (digits value : Nat) (char : Char) : TextStep :=
  match hexValue? char with
  | some digit => if digits = 6 then .reject else .next (.number (digits + 1) (16 * value + digit))
  | none =>
    if digits = 0 then .reject
    else if char == '_' then .next (.number digits value)
    else if char == '\x7d' && isScalar value && !(kind = .cString && value = 0) then .next .plain
    else .reject

def step (kind : TextKind) (state : TextState) (char : Char) : TextStep :=
  match state with
  | .plain => kind.plainStep char
  | .carriageReturn => if char == '\n' then .next .plain else .reject
  | .escape => kind.escapeStep char
  | .firstDigit => kind.firstDigitStep char
  | .secondDigit first => kind.secondDigitStep first char
  | .openNumber => if char == '\x7b' then .next (.number 0 0) else .reject
  | .number digits value => kind.numberStep digits value char
  | .lineBreak true => if char == '\n' then .next (.lineBreak false) else .reject
  | .lineBreak false =>
    match char with
    | ' ' | '\t' | '\n' => .next (.lineBreak false)
    | '\r' => .next (.lineBreak true)
    | char => kind.plainStep char

/-- The rest of a quoted text after its opening quote, with the closing quote. -/
def scan (kind : TextKind) (state : TextState) : List Char → Option Split
  | [] => none
  | char :: rest =>
    match kind.step state char with
    | .next state => (kind.scan state rest).map (·.after [char])
    | .close => some ⟨[char], rest⟩
    | .reject => none

/-- Whether a raw text of this kind may hold a character. -/
def holdsRaw (kind : TextKind) (char : Char) : Bool :=
  match kind with
  | string => true
  | bytes => char.toNat < 0x80
  | cString => char != '\x00'

/-- The rest of a raw text after its opening quote, up to a quote followed by `hashes`.  A carriage
return stands only before a line feed. -/
def scanRaw (kind : TextKind) (hashes : List Char) : List Char → Option Split
  | [] => none
  | '\r' :: rest =>
    match rest with
    | '\n' :: rest => (kind.scanRaw hashes rest).map (·.after ['\r', '\n'])
    | _ => none
  | '"' :: rest =>
    if hashes.isPrefixOf rest then
      some ⟨'"' :: hashes, rest.drop hashes.length⟩
    else
      (kind.scanRaw hashes rest).map (·.after ['"'])
  | char :: rest =>
    if kind.holdsRaw char then (kind.scanRaw hashes rest).map (·.after [char]) else none

/-- A text in quotes that follows `opening`. -/
def quoted? (kind : TextKind) (opening text : List Char) : Option Split :=
  if (opening ++ ['"']).isPrefixOf text then
    (kind.scan .plain (text.drop (opening.length + 1))).map fun split =>
      (split.after (opening ++ ['"'])).withSuffix
  else
    none

/-- A raw text that follows `opening`: hashes, at most 255 of them, and a quote. -/
def raw? (kind : TextKind) (opening text : List Char) : Option Split :=
  if opening.isPrefixOf text then
    let hashes := run (· == '#') (text.drop opening.length)
    match hashes.rest with
    | '"' :: rest =>
      if hashes.taken.length ≤ 255 then
        (kind.scanRaw hashes.taken rest).map fun split =>
          (split.after (opening ++ hashes.taken ++ ['"'])).withSuffix
      else
        none
    | _ => none
  else
    none

/-- The character or escape inside single quotes.  Outside an escape every character may stand
there, a quote and a line break too. -/
def unit? (kind : TextKind) (text : List Char) : Option Split :=
  match text with
  | '\\' :: 'x' :: first :: second :: rest =>
    match kind.firstDigitStep first, kind.secondDigitStep first second with
    | .next _, .next _ => some ⟨['\\', 'x', first, second], rest⟩
    | _, _ => none
  | '\\' :: 'u' :: '\x7b' :: rest =>
    if kind = .bytes then none
    else
      let number := run (· != '\x7d') rest
      let digits := number.taken.filterMap hexValue?
      let wellFormed := number.taken.head?.any (· != '_') &&
        number.taken.all (fun char => char == '_' || (hexValue? char).isSome) &&
        digits.length ≤ 6 && isScalar (digits.foldl (fun value digit => 16 * value + digit) 0)
      match number.rest with
      | brace :: rest =>
        if wellFormed then some ⟨'\\' :: 'u' :: '\x7b' :: (number.taken ++ [brace]), rest⟩ else none
      | [] => none
  | '\\' :: char :: rest => if "nrt\\0'\"".contains char then some ⟨['\\', char], rest⟩ else none
  | ['\\'] => none
  | char :: rest => if kind.holdsRaw char then some ⟨[char], rest⟩ else none
  | [] => none

/-- A character in single quotes that follows `opening`. -/
def single? (kind : TextKind) (opening text : List Char) : Option Split :=
  if (opening ++ ['\'']).isPrefixOf text then
    match kind.unit? (text.drop (opening.length + 1)) with
    | some ⟨taken, '\'' :: rest⟩ =>
      some (Split.withSuffix ⟨opening ++ '\'' :: (taken ++ ['\'']), rest⟩)
    | _ => none
  else
    none

end TextKind

def isDecimal (char : Char) : Bool :=
  '0' ≤ char && char ≤ '9'

def isDecimalOrGap (char : Char) : Bool :=
  isDecimal char || char == '_'

/-- A number ends where no character of an identifier follows. -/
def Split.ifWordEnds (split : Split) : Option Split :=
  if split.rest.head?.any continuesIdentifier then none else some split

/-- The exponent after its letter, if it has a digit: a sign may stand before the first digit. -/
def exponent? (signed digit : Bool) : List Char → Option Split
  | [] => if digit then some ⟨[], []⟩ else none
  | char :: rest =>
    if (char == '+' || char == '-') && !digit then
      if signed then none else (exponent? true digit rest).map (·.after [char])
    else if isDecimal char then
      (exponent? signed true rest).map (·.after [char])
    else if char == '_' then
      (exponent? signed digit rest).map (·.after [char])
    else if digit then some ⟨[], char :: rest⟩
    else none

/-- The exponent that may follow the digits of a number with a point. -/
def exponentOrNothing (text : List Char) : Split :=
  match text with
  | letter :: rest =>
    if letter == 'e' || letter == 'E' then
      ((exponent? false false rest).map (·.after [letter])).getD ⟨[], text⟩
    else ⟨[], text⟩
  | [] => ⟨[], []⟩

/-- The digits of a floating-point number: it has a point that no second point and no identifier
follows, or an exponent. -/
def floatDigits? (text : List Char) : Option Split :=
  if text.head?.any isDecimal then
    let whole := run isDecimalOrGap text
    match whole.rest with
    | '.' :: rest =>
      if rest.head?.any (fun char => char == '.' || startsIdentifier char) then none
      else
        let fraction := run isDecimalOrGap rest
        some (((exponentOrNothing fraction.rest).after fraction.taken).after (whole.taken ++ ['.']))
    | letter :: rest =>
      if letter == 'e' || letter == 'E' then
        (exponent? false false rest).map (·.after (whole.taken ++ [letter]))
      else none
    | [] => none
  else
    none

/-- A floating-point number with its suffix. -/
def float? (text : List Char) : Option Split :=
  (floatDigits? text).bind fun split => split.withSuffix.ifWordEnds

/-- The digits of a number in `base`.  A decimal digit that is too large rejects the number, a
letter that is no digit ends it.  `seen` tells that a digit was read. -/
def digits? (base : Nat) (seen : Bool) : List Char → Option Split
  | [] => if seen then some ⟨[], []⟩ else none
  | char :: rest =>
    let ended := if seen then some ⟨[], char :: rest⟩ else none
    if char == '_' then
      if !seen && base = 10 then none else (digits? base seen rest).map (·.after [char])
    else
      match hexValue? char with
      | some value =>
        if value < base then (digits? base true rest).map (·.after [char])
        else if isDecimal char then none
        else ended
      | none => ended

/-- An integer with its suffix. -/
def integer? (text : List Char) : Option Split :=
  let digits : Option Split := match text with
    | '0' :: 'x' :: rest => (digits? 16 false rest).map (·.after ['0', 'x'])
    | '0' :: 'o' :: rest => (digits? 8 false rest).map (·.after ['0', 'o'])
    | '0' :: 'b' :: rest => (digits? 2 false rest).map (·.after ['0', 'b'])
    | text => digits? 10 false text
  digits.bind fun split => split.withSuffix.ifWordEnds

/-- A literal of any kind. -/
def scan? (text : List Char) : Option Split :=
  TextKind.string.quoted? [] text <|> TextKind.string.raw? ['r'] text <|>
  TextKind.bytes.quoted? ['b'] text <|> TextKind.bytes.raw? ['b', 'r'] text <|>
  TextKind.cString.quoted? ['c'] text <|> TextKind.cString.raw? ['c', 'r'] text <|>
  TextKind.bytes.single? ['b'] text <|> TextKind.string.single? [] text <|>
  float? text <|> integer? text

/-- Whether the spelling of a literal is that of a string. -/
def isString (spelling : String) : Bool :=
  match spelling.toList with
  | '"' :: _ | 'r' :: _ => true
  | _ => false

/-- Whether the spelling of a number is that of an integer: it has no point, and an `e` in it does
not begin an exponent. -/
def isInteger (spelling : String) : Bool :=
  match spelling.toList with
  | '0' :: 'x' :: _ | '0' :: 'o' :: _ | '0' :: 'b' :: _ => true
  | text =>
    text.head?.any isDecimal &&
      match (run isDecimalOrGap text).rest with
      | '.' :: _ => false
      | letter :: rest =>
        let exponent := run isDecimalOrGap rest
        !(letter == 'e' || letter == 'E') ||
          !(exponent.taken.any isDecimal ||
            exponent.rest.head?.any (fun char => char == '+' || char == '-'))
      | [] => true

/-- Whether the spelling is that of a floating-point number. -/
def isFloat (spelling : String) : Bool :=
  spelling.toList.head?.any isDecimal && !isInteger spelling

/-- The value of an integer without a suffix. -/
def plainValue? (spelling : String) : Option Nat :=
  match spelling.toList with
  | '0' :: 'x' :: digits => digitsValue? 16 digits
  | '0' :: 'o' :: digits => digitsValue? 8 digits
  | '0' :: 'b' :: digits => digitsValue? 2 digits
  | digits => digitsValue? 10 digits

end ShaderCalls.Source.Literal
