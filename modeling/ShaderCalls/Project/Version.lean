import ShaderCalls.Text.Digits
import ShaderCalls.Text.Separator

/-!
# Versions

Whether a text is the version of a package, three numbers with optional names before and after a
release, or a requirement on versions.
-/

namespace ShaderCalls.Version

/-- What follows a number without leading zeros that fits into 64 bits. -/
def number (text : List Char) : Option (List Char) :=
  let digits := text.takeWhile Char.isDigit
  let padded := digits.length > 1 && digits.head? == some '0'
  if digits.isEmpty || padded || Text.valuesOf 64 ≤ Text.digitsValue digits then none
  else some (text.dropWhile Char.isDigit)

/-- A character of the names in a version. -/
def isNameCharacter (char : Char) : Bool :=
  char.isAlphanum || char == '-'

/-- What follows names with points between them.  Unless `padding` is allowed, a name of digits
alone has no leading zero. -/
def names (padding : Bool) (text : List Char) : Option (List Char) :=
  let taken := text.takeWhile fun char => isNameCharacter char || char == '.'
  let accepted (name : List Char) : Bool :=
    !name.isEmpty &&
      (padding || !name.all Char.isDigit || name.length == 1 || name.head? != some '0')
  if (Text.splitAll '.' taken).all accepted then some (text.drop taken.length) else none

/-- What follows the names after the numbers of a version. -/
def afterNames (text : List Char) : Option (List Char) := do
  let text ← match text with
    | '-' :: rest => names false rest
    | text => some text
  match text with
  | '+' :: rest => names true rest
  | text => some text

def point : List Char → Option (List Char)
  | '.' :: rest => some rest
  | _ => none

/-- Whether a text is a version. -/
def isVersion (text : String) : Bool :=
  let rest := do
    let text ← number text.toList
    let text ← number (← point text)
    let text ← number (← point text)
    afterNames text
  rest == some []

/-- Whether a text is the least version of a compiler, of which the third number may be missing. -/
def isCompilerVersion (text : String) : Bool :=
  let points := text.toList.count '.'
  !text.any (fun char => char == '-' || char == '+') &&
    isVersion (if points = 1 then text ++ ".0" else text)

/-! ## Requirements -/

def isWildcard (char : Char) : Bool :=
  char == '*' || char == 'x' || char == 'X'

def skipBlanks (text : List Char) : List Char :=
  text.dropWhile (· == ' ')

/-- What follows the sign of a comparison. -/
def afterSign : List Char → List Char
  | '>' :: '=' :: rest => rest
  | '<' :: '=' :: rest => rest
  | char :: rest => if ['=', '>', '<', '~', '^'].contains char then rest else char :: rest
  | [] => []

/-- One comparison, and what follows it. -/
def comparison (text : List Char) : Option (List Char) := do
  let text ← number (skipBlanks (afterSign text))
  let (text, isOpen) ← match text with
    | '.' :: char :: rest =>
      if isWildcard char then some (rest, true)
      else do some (← number (char :: rest), false)
    | ['.'] => none
    | text => some (text, false)
  let text ← match text with
    | '.' :: char :: rest =>
      if isWildcard char then some rest
      else if isOpen then none
      else do afterNames (← number (char :: rest))
    | ['.'] => none
    | text => some text
  some (skipBlanks text)

/-- Whether a text is at most `limit` comparisons with commas between them. -/
def comparisons : Nat → List Char → Bool
  | 0, _ => false
  | limit + 1, text =>
    match comparison text with
    | some [] => true
    | some (',' :: rest) => comparisons limit (skipBlanks rest)
    | _ => false

/-- Whether a text is a requirement on versions. -/
def isRequirement (text : String) : Bool :=
  match skipBlanks text.toList with
  | char :: rest =>
    if isWildcard char then (skipBlanks rest).isEmpty else comparisons 32 (char :: rest)
  | [] => false

end ShaderCalls.Version
