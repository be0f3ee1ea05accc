import ShaderCalls.Json.Value

/-!
# Printing JSON

The elements of an array and the members of an object stand on lines of their own, two blanks
further in than what holds them.  Quotes, backslashes and control characters are escaped; every
other character stands for itself.
-/

namespace ShaderCalls.Json

/-- The form of one character in a string. -/
def escapeCharacter (char : Char) : List Char :=
  match char with
  | '"' => ['\\', '"']
  | '\\' => ['\\', '\\']
  | '\x08' => ['\\', 'b']
  | '\x0c' => ['\\', 'f']
  | '\n' => ['\\', 'n']
  | '\r' => ['\\', 'r']
  | '\t' => ['\\', 't']
  | char =>
    if char.toNat < 0x20 then
      ['\\', 'u', '0', '0', Nat.digitChar (char.toNat / 16), Nat.digitChar (char.toNat % 16)]
    else [char]

/-- A string with its quotes. -/
def quoted (text : String) : List Char :=
  '"' :: (text.toList.flatMap escapeCharacter ++ ['"'])

/-- The end of a line and the blanks before what stands at a depth. -/
def newLine (depth : Nat) : List Char :=
  '\n' :: List.replicate (2 * depth) ' '

mutual

/-- The printed form of a value at a depth. -/
def print (depth : Nat) : Json → List Char
  | .null => ['n', 'u', 'l', 'l']
  | .bool true => ['t', 'r', 'u', 'e']
  | .bool false => ['f', 'a', 'l', 's', 'e']
  | .number spelling => spelling
  | .string text => quoted text
  | .array [] => ['[', ']']
  | .array (first :: rest) =>
    '[' :: (newLine (depth + 1) ++ print (depth + 1) first ++ printElements (depth + 1) rest ++
      newLine depth ++ [']'])
  | .object [] => ['\x7b', '\x7d']
  | .object ((name, value) :: rest) =>
    '\x7b' :: (newLine (depth + 1) ++ quoted name ++ [':', ' '] ++ print (depth + 1) value ++
      printMembers (depth + 1) rest ++ newLine depth ++ ['\x7d'])

/-- The elements of an array after the first. -/
def printElements (depth : Nat) : List Json → List Char
  | [] => []
  | element :: rest => ',' :: (newLine depth ++ print depth element ++ printElements depth rest)

/-- The members of an object after the first. -/
def printMembers (depth : Nat) : List (String × Json) → List Char
  | [] => []
  | (name, value) :: rest =>
    ',' :: (newLine depth ++ quoted name ++ [':', ' '] ++ print depth value ++
      printMembers depth rest)

end

/-- The printed form of a value. -/
def render (value : Json) : String :=
  String.ofList (print 0 value)

end ShaderCalls.Json
