import ShaderCalls.Text.IdentifierTable
import ShaderCalls.Text.EscapeTable

/-!
# Character classes

White space and the two identifier classes follow Unicode.  A class beyond ASCII is stored as the
points at which membership changes, so a character belongs to it when an odd number of changes lie
at or below it.
-/

namespace ShaderCalls.Text

/-- White space: every character with the Unicode property of that name. -/
def isBlank (char : Char) : Bool :=
  let code := char.toNat
  (0x09 ≤ code && code ≤ 0x0d) || code == 0x20 || code == 0x85 || code == 0xa0 || code == 0x1680 ||
    (0x2000 ≤ code && code ≤ 0x200a) || code == 0x2028 || code == 0x2029 || code == 0x202f ||
    code == 0x205f || code == 0x3000

/-- The number of entries of `changes` between `low` and `high` that are at most `code`, plus
`low`, by bisection; `fuel` bounds the number of halvings. -/
def countChanges (changes : Array Nat) (code : Nat) : Nat → Nat → Nat → Nat
  | 0, low, _ => low
  | fuel + 1, low, high =>
    if low < high then
      let middle := (low + high) / 2
      if changes.getD middle 0 ≤ code then
        countChanges changes code fuel (middle + 1) high
      else
        countChanges changes code fuel low middle
    else
      low

/-- Membership in a class given by the points at which it changes. -/
def inClass (changes : Array Nat) (char : Char) : Bool :=
  countChanges changes char.toNat changes.size 0 changes.size % 2 == 1

/-- A character that an identifier may start with. -/
def startsIdentifier (char : Char) : Bool :=
  char.isAlpha || char == '_' || (0x80 ≤ char.toNat && inClass identifierStartChanges char)

/-- A character that an identifier may go on with. -/
def continuesIdentifier (char : Char) : Bool :=
  char.isAlphanum || char == '_' || (0x80 ≤ char.toNat && inClass identifierContinueChanges char)

/-- A character that a quoted text shows by its number. -/
def needsNumber (char : Char) : Bool :=
  char.toNat < 0x20 || char.toNat == 0x7f || (0x80 ≤ char.toNat && inClass escapedChanges char)

/-- Drops white space at both ends. -/
def trim (text : String) : String :=
  String.ofList ((text.toList.dropWhile isBlank).reverse.dropWhile isBlank).reverse

end ShaderCalls.Text
