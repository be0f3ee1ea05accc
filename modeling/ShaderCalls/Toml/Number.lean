import ShaderCalls.Text.Decimal
import ShaderCalls.Text.Digits
import ShaderCalls.Toml.Line

/-!
# Numbers and moments in TOML

An underscore may stand between two digits of a number.  Integers fit into 64 bits with a sign.
-/

namespace ShaderCalls.Toml

/-! ## Numbers -/

/-- The digits at hand, and those after an underscore among them. -/
def readMoreDigits (isDigit : Char → Bool) : List Char → List Char × List Char
  | '_' :: char :: rest =>
    if isDigit char then
      let (digits, rest) := readMoreDigits isDigit rest
      (char :: digits, rest)
    else ([], '_' :: char :: rest)
  | char :: rest =>
    if isDigit char then
      let (digits, rest) := readMoreDigits isDigit rest
      (char :: digits, rest)
    else ([], char :: rest)
  | [] => ([], [])

/-- One or more digits. -/
def readDigits (isDigit : Char → Bool) : Reader (List Char)
  | char :: rest =>
    if isDigit char then
      let (digits, rest) := readMoreDigits isDigit rest
      some (char :: digits, rest)
    else none
  | [] => none

/-- Whether there is a minus sign in front, and what follows the sign. -/
def readSign : List Char → Bool × List Char
  | '-' :: rest => (true, rest)
  | '+' :: rest => (false, rest)
  | text => (false, text)

/-- Digits of which the first is no zero, or a lone zero. -/
def readWhole : Reader (List Char)
  | '0' :: rest => some (['0'], rest)
  | text => readDigits Char.isDigit text

/-- The digits of a fraction after its point. -/
def readFraction : Reader (List Char)
  | '.' :: rest => readDigits Char.isDigit rest
  | _ => none

/-- The power of ten after its letter. -/
def readPower : Reader Int
  | letter :: rest =>
    if letter == 'e' || letter == 'E' then do
      let (negative, rest) := readSign rest
      let (digits, rest) ← readDigits Char.isDigit rest
      let power : Int := Text.digitsValue digits
      some (if negative then -power else power, rest)
    else none
  | [] => none

/-- The magnitude of a float: digits with a fraction, a power of ten or both. -/
def readMagnitude : Reader Float := fun text => do
  let (whole, rest) ← readWhole text
  match readFraction rest with
  | some (fraction, rest) =>
    let (power, rest) := (readPower rest).getD (0, rest)
    let number := Text.digitsValue (whole ++ fraction)
    some (Text.nearestToDecimal number (power - fraction.length), rest)
  | none => do
    let (power, rest) ← readPower rest
    some (Text.nearestToDecimal (Text.digitsValue whole) power, rest)

/-- The magnitude of a float that is no number or infinite. -/
def readSpecial : Reader Float
  | 'i' :: 'n' :: 'f' :: rest => some (1.0 / 0.0, rest)
  | 'n' :: 'a' :: 'n' :: rest => some (0.0 / 0.0, rest)
  | _ => none

/-- A float.  Digits that stand for a number beyond all positive doubles are refused. -/
def readFloat : Reader Float := fun text =>
  let (negative, rest) := readSign text
  let signed (magnitude : Float) : Float := if negative then -magnitude else magnitude
  match readMagnitude rest with
  | some (magnitude, rest) =>
    if magnitude.isFinite || negative then some (signed magnitude, rest) else none
  | none => do
    let (magnitude, rest) ← readSpecial rest
    some (signed magnitude, rest)

/-- The value of digits in `base` that follow its mark. -/
def readBase (base : Nat) : Reader Int := fun text => do
  let (digits, rest) ← readDigits (fun char => (Text.hexValue? char).any (· < base)) text
  let value ← Text.digitsValue? base digits
  if value < Text.valuesOf 63 then some ((value : Int), rest) else none

def readInteger : Reader Int
  | '0' :: 'x' :: rest => readBase 16 rest
  | '0' :: 'o' :: rest => readBase 8 rest
  | '0' :: 'b' :: rest => readBase 2 rest
  | text => do
    let (negative, rest) := readSign text
    let (digits, rest) ← readWhole rest
    let magnitude := Text.digitsValue digits
    if negative then
      if magnitude ≤ Text.valuesOf 63 then some (-(magnitude : Int), rest) else none
    else
      if magnitude < Text.valuesOf 63 then some ((magnitude : Int), rest) else none

/-! ## Moments -/

/-- A number of `width` digits. -/
def readField (width : Nat) : Reader Nat := fun text =>
  let digits := text.take width
  if digits.length = width && digits.all Char.isDigit then
    some (Text.digitsValue digits, text.drop width)
  else none

/-- What follows a mark. -/
def afterMark? (mark : Char) : List Char → Option (List Char)
  | char :: rest => if char = mark then some rest else none
  | [] => none

def isLeapYear (year : Nat) : Bool :=
  year % 4 = 0 && (year % 100 != 0 || year % 400 = 0)

def daysIn (year month : Nat) : Nat :=
  if month = 2 then if isLeapYear year then 29 else 28
  else if [4, 6, 9, 11].contains month then 30
  else 31

/-- What follows a date. -/
def afterDate? (text : List Char) : Option (List Char) := do
  let (year, text) ← readField 4 text
  let (month, text) ← readField 2 (← afterMark? '-' text)
  let (day, text) ← readField 2 (← afterMark? '-' text)
  if 1 ≤ month && month ≤ 12 && 1 ≤ day && day ≤ daysIn year month then some text else none

/-- What follows an hour and a minute. -/
def afterMinute? (text : List Char) : Option (List Char) := do
  let (hour, text) ← readField 2 text
  let (minute, text) ← readField 2 (← afterMark? ':' text)
  if hour ≤ 23 && minute ≤ 59 then some text else none

/-- What follows a time of day. -/
def afterTime? (text : List Char) : Option (List Char) := do
  let text ← afterMinute? text
  let (second, text) ← readField 2 (← afterMark? ':' text)
  if 60 < second then none
  else
    match text with
    | '.' :: char :: rest =>
      if char.isDigit then some (rest.dropWhile Char.isDigit) else some text
    | text => some text

/-- What follows the offset of a time zone. -/
def afterOffset? : List Char → Option (List Char)
  | 'Z' :: rest => some rest
  | 'z' :: rest => some rest
  | '+' :: rest => afterMinute? rest
  | '-' :: rest => afterMinute? rest
  | _ => none

/-- What follows a time after a date, if there is one. -/
def skipTimeOfDate : List Char → List Char
  | mark :: rest =>
    if mark == 'T' || mark == 't' || mark == ' ' then
      match afterTime? rest with
      | some text => (afterOffset? text).getD text
      | none => mark :: rest
    else mark :: rest
  | [] => []

/-- The spelling of a date, a time or both. -/
def readMoment : Reader (List Char) := fun text => do
  let rest ←
    match afterDate? text with
    | some rest => some (skipTimeOfDate rest)
    | none => afterTime? text
  some (text.take (text.length - rest.length), rest)

end ShaderCalls.Toml
