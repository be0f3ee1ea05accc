import ShaderCalls.Text.Character

/-!
# Quoted text

The literal that stands for a text in double quotes.  Control characters, characters without a
shape and combining characters are shown by an escape; an apostrophe stands for itself.
-/

namespace ShaderCalls.Text

/-- The lower-case hexadecimal digits of a number. -/
def hexDigits (number : Nat) : List Char :=
  Nat.toDigits 16 number

/-- The form of one character, where `next` is the character that follows it.  A null before an
octal digit is written with two digits, so that it cannot be read as part of a longer number. -/
def escapeCharacter (char : Char) (next : Option Char) : List Char :=
  match char with
  | '\x00' =>
    match next with
    | some digit => if '0' ≤ digit && digit ≤ '7' then ['\\', 'x', '0', '0'] else ['\\', '0']
    | none => ['\\', '0']
  | '\t' => ['\\', 't']
  | '\n' => ['\\', 'n']
  | '\r' => ['\\', 'r']
  | '"' => ['\\', '"']
  | '\\' => ['\\', '\\']
  | char =>
    if needsNumber char then ['\\', 'u', '\x7b'] ++ hexDigits char.toNat ++ ['\x7d'] else [char]

/-- The escaped form of a text, without its quotes. -/
def escapeCharacters : List Char → List Char
  | [] => []
  | char :: rest => escapeCharacter char rest.head? ++ escapeCharacters rest

/-- The literal that stands for a text. -/
def quote (text : List Char) : String :=
  String.ofList ('"' :: (escapeCharacters text ++ ['"']))

end ShaderCalls.Text
