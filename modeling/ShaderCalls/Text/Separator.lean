/-!
# Separators

Texts that are cut at a character, and qualified names: lists of segments with two colons between
them.
-/

namespace ShaderCalls.Text

/-- The parts of a text between the occurrences of a character. -/
def splitAll (separator : Char) : List Char → List (List Char)
  | [] => [[]]
  | char :: rest =>
    if char = separator then [] :: splitAll separator rest
    else
      match splitAll separator rest with
      | first :: more => (char :: first) :: more
      | [] => [[char]]

/-- The parts of a text before and after the first occurrence of a character. -/
def splitFirst (separator : Char) : List Char → Option (List Char × List Char)
  | [] => none
  | char :: rest =>
    if char = separator then some ([], rest)
    else (splitFirst separator rest).map fun (before, after) => (char :: before, after)

/-- The parts of a text before and after the last occurrence of a character. -/
def splitLast (separator : Char) : List Char → Option (List Char × List Char)
  | [] => none
  | char :: rest =>
    match splitLast separator rest with
    | some (before, after) => some (char :: before, after)
    | none => if char = separator then some ([], rest) else none

/-- The parts of a text between separators of two colons, taken from the left. -/
def splitColons : List Char → List (List Char)
  | ':' :: ':' :: rest => [] :: splitColons rest
  | char :: rest =>
    match splitColons rest with
    | first :: more => (char :: first) :: more
    | [] => [[char]]
  | [] => [[]]

/-- The parts before and after the last separator of two colons in a text. -/
def splitLastColons : List Char → Option (List Char × List Char)
  | [] => none
  | char :: rest =>
    match splitLastColons rest with
    | some (before, after) => some (char :: before, after)
    | none =>
      match char, rest with
      | ':', ':' :: after => some ([], after)
      | _, _ => none

/-- The segments of a qualified name. -/
def segments (name : String) : List String :=
  (splitColons name.toList).map String.ofList

/-- The qualified name of a list of segments. -/
def qualified (segments : List String) : String :=
  "::".intercalate segments

end ShaderCalls.Text
