/-!
# Digits

Numbers by their digits, and characters by their numbers.
-/

namespace ShaderCalls.Text

/-- The number that decimal digits stand for, most significant first. -/
def digitsValue (digits : List Char) : Nat :=
  digits.foldl (fun value digit => 10 * value + (digit.toNat - '0'.toNat)) 0

/-- The number that a text of one or more decimal digits stands for. -/
def decimal? (text : List Char) : Option Nat :=
  if !text.isEmpty && text.all Char.isDigit then some (digitsValue text) else none

/-- The number of values that so many bits can have. -/
def valuesOf (bits : Nat) : Nat :=
  Nat.pow 2 bits

/-- A number of 32 bits in decimal digits, with an optional plus sign in front. -/
def word32? (text : List Char) : Option UInt32 := do
  let digits := match text with
    | '+' :: digits => digits
    | digits => digits
  let value ← decimal? digits
  if value < valuesOf 32 then some value.toUInt32 else none

/-- The value of a hexadecimal digit. -/
def hexValue? (char : Char) : Option Nat :=
  if '0' ≤ char && char ≤ '9' then some (char.toNat - '0'.toNat)
  else if 'a' ≤ char && char ≤ 'f' then some (char.toNat - 'a'.toNat + 10)
  else if 'A' ≤ char && char ≤ 'F' then some (char.toNat - 'A'.toNat + 10)
  else none

/-- The value of digits in `base`, between which underscores may stand. -/
def digitsValue? (base : Nat) (digits : List Char) : Option Nat :=
  digits.foldl (fun value char => do
    let value ← value
    if char == '_' then pure value
    else
      let digit ← hexValue? char
      if digit < base then pure (base * value + digit) else none) (some 0)

/-- A number that names a character. -/
def isScalar (value : Nat) : Bool :=
  value < 0xd800 || (0xdfff < value && value < 0x110000)

end ShaderCalls.Text
