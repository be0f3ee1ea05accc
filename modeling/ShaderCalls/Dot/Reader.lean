/-!
# Reading graphs in the DOT language

`Dot.read?` reads a text that is one directed graph whose statements all end with a semicolon.  A
text in double quotes goes up to the first quote that no backslash escapes; behind a backslash `n`
stands for the end of a line and every other character for itself.
-/

namespace ShaderCalls.Dot

/-! ## Tokens -/

inductive Token where
  | word (text : List Char)
  /-- A text in double quotes, by what it stands for. -/
  | quoted (text : List Char)
  | arrow
  | mark (char : Char)
  deriving DecidableEq, Repr

/-- What the characters so far belong to, apart from the tokens that have ended. -/
inductive Reading where
  | between
  | word (text : List Char)
  | quoted (text : List Char)
  /-- In a quoted text behind a backslash. -/
  | escaped (text : List Char)
  /-- Behind the first character of an arrow. -/
  | dash
  deriving DecidableEq, Repr

/-- Characters that may stand between tokens. -/
def isGap (char : Char) : Bool :=
  char == ' ' || char == '\t' || char == '\n' || char == '\r'

/-- Characters of words, which need no quotes. -/
def isWordCharacter (char : Char) : Bool :=
  char.isAlphanum || char == '_' || 0x80 ≤ char.toNat

def isMark (char : Char) : Bool :=
  ['\x7b', '\x7d', '[', ']', '=', ',', ';'].contains char

/-- What a character behind a backslash stands for. -/
def unescape (char : Char) : Char :=
  if char = 'n' then '\n' else char

/-- A character that begins something, with the tokens that it is. -/
def Reading.start (char : Char) : Option (List Token × Reading) :=
  if char = '"' then some ([], .quoted [])
  else if isGap char then some ([], .between)
  else if char = '-' then some ([], .dash)
  else if isWordCharacter char then some ([], .word [char])
  else if isMark char then some ([.mark char], .between)
  else none

/-- One character, with the tokens that end at it. -/
def Reading.step (reading : Reading) (char : Char) : Option (List Token × Reading) :=
  match reading with
  | .between => start char
  | .word text =>
    if isWordCharacter char then some ([], .word (text ++ [char]))
    else (start char).map fun (found, next) => (.word text :: found, next)
  | .quoted text =>
    if char = '"' then some ([.quoted text], .between)
    else if char = '\\' then some ([], .escaped text)
    else some ([], .quoted (text ++ [char]))
  | .escaped text => some ([], .quoted (text ++ [unescape char]))
  | .dash => if char = '>' then some ([.arrow], .between) else none

/-- The tokens that end in a text, and what its last characters belong to. -/
def run : Reading → List Char → Option (List Token × Reading)
  | reading, [] => some ([], reading)
  | reading, char :: rest => do
    let (found, next) ← reading.step char
    let (others, last) ← run next rest
    some (found ++ others, last)

/-- The tokens of a text; what it begins with must have ended, like all else. -/
def tokens? (reading : Reading) (text : List Char) : Option (List Token) :=
  match run reading text with
  | some (found, .between) => some found
  | _ => none

/-! ## Statements -/

inductive Statement where
  | setting (name value : String)
  /-- Attributes of all nodes that follow. -/
  | defaults (attributes : List (String × String))
  | node (name : String) (attributes : List (String × String))
  | edge (source target : String)
  deriving DecidableEq, Repr

structure Graph where
  name : String
  statements : List Statement
  deriving DecidableEq, Repr

def Token.name? : Token → Option String
  | .word text => some (String.ofList text)
  | .quoted text => some (String.ofList text)
  | _ => none

/-- Attributes with commas between them up to the closing bracket. -/
def attributes? : List Token → Option (List (String × String))
  | [.mark ']'] => some []
  | [name, .mark '=', value, .mark ']'] => do
    some [(← name.name?, ← value.name?)]
  | name :: .mark '=' :: value :: .mark ',' :: rest => do
    let first := (← name.name?, ← value.name?)
    some (first :: (← attributes? rest))
  | _ => none

/-- A statement without its semicolon. -/
def statement? : List Token → Option Statement
  | .word ['n', 'o', 'd', 'e'] :: .mark '[' :: rest => (attributes? rest).map .defaults
  | [name, .mark '=', value] => do
    some (.setting (← name.name?) (← value.name?))
  | [source, .arrow, target] => do
    some (.edge (← source.name?) (← target.name?))
  | name :: .mark '[' :: rest => do
    some (.node (← name.name?) (← attributes? rest))
  | _ => none

/-- The statements up to the closing brace, where `current` are the tokens of the one that has
begun. -/
def statements? (current : List Token) : List Token → Option (List Statement)
  | [] => none
  | [.mark '\x7d'] => if current.isEmpty then some [] else none
  | .mark ';' :: rest => do
    let first ← statement? current
    some (first :: (← statements? [] rest))
  | token :: rest => statements? (current ++ [token]) rest

/-- The graph that a text describes. -/
def read? (text : String) : Option Graph := do
  match ← tokens? .between text.toList with
  | .word ['d', 'i', 'g', 'r', 'a', 'p', 'h'] :: name :: .mark '\x7b' :: rest =>
    some ⟨← name.name?, ← statements? [] rest⟩
  | _ => none

end ShaderCalls.Dot
