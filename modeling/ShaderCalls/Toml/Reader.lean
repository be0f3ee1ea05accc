import ShaderCalls.Toml.Number
import ShaderCalls.Toml.Table
import ShaderCalls.Toml.Text

/-!
# Reading TOML

`Toml.read?` reads a text line by line.  A key has its value in the table of the last header before
it.
-/

namespace ShaderCalls.Toml

variable {α : Type}

/-- A character that a bare name may hold. -/
def isNameCharacter (char : Char) : Bool :=
  char.isAlphanum || char == '-' || char == '_'

/-- A name, bare or quoted, with the blanks around it. -/
def readName : Reader String := fun text => do
  let text := skipBlanks text
  let (characters, rest) ←
    match readLine text with
    | some read => some read
    | none =>
      let name := text.takeWhile isNameCharacter
      if name.isEmpty then none else some (name, text.dropWhile isNameCharacter)
  some (String.ofList characters, skipBlanks rest)

/-- At most `limit` names with points between them. -/
def readNames : Nat → Reader (List String)
  | 0, _ => none
  | limit + 1, text => do
    let (name, rest) ← readName text
    match rest with
    | '.' :: rest => do
      let (names, rest) ← readNames limit rest
      some (name :: names, rest)
    | rest => some ([name], rest)

def readKey : Reader Key := fun text => do
  let (names, rest) ← readNames nestingLimit text
  some (⟨names.dropLast, ← names.getLast?⟩, rest)

/-- A key, the sign after it, and a value with blanks in front. -/
def readAssignment (value : Reader Toml) : Reader (Key × Toml) := fun text => do
  let (key, rest) ← readKey text
  match rest with
  | '=' :: rest => do
    let (value, rest) ← value (skipBlanks rest)
    some ((key, value), rest)
  | _ => none

/-! ## Values -/

/-- A value that holds no other. -/
def readScalar : Reader Toml
  | 't' :: 'r' :: 'u' :: 'e' :: rest => some (.boolean true, rest)
  | 'f' :: 'a' :: 'l' :: 's' :: 'e' :: rest => some (.boolean false, rest)
  | text =>
    match readText text, readMoment text, readFloat text with
    | some (characters, rest), _, _ => some (.string (String.ofList characters), rest)
    | _, some (spelling, rest), _ => some (.moment (String.ofList spelling), rest)
    | _, _, some (value, rest) => some (.float value, rest)
    | none, none, none => do
      let (value, rest) ← readInteger text
      some (.integer value, rest)

/-- One or more items with commas between them, each of which takes the white space around it. -/
def readItems (item : Reader α) : Nat → Reader (List α)
  | 0, _ => none
  | fuel + 1, text => do
    let (first, rest) ← item text
    match rest with
    | ',' :: rest =>
      match readItems item fuel rest with
      | some (others, rest) => some (first :: others, rest)
      | none => some ([first], ',' :: rest)
    | rest => some ([first], rest)

/-- The elements of an array after its opening bracket; a comma may follow the last one. -/
def readElements (value : Reader Toml) : Reader (List Toml) := fun text =>
  let element : Reader Toml := fun text => do
    let (value, rest) ← value (skipGaps false text)
    some (value, skipGaps false rest)
  let (elements, rest) := (readItems element text.length text).getD ([], text)
  let rest := match rest with
    | ',' :: rest => if elements.isEmpty then ',' :: rest else rest
    | rest => rest
  match skipGaps false rest with
  | ']' :: rest => some (elements, rest)
  | _ => none

/-- The members of an inline table after its opening brace. -/
def readInlineTable (value : Reader Toml) : Reader Toml := fun text => do
  let assignment : Reader (Key × Toml) := fun text => do
    let (read, rest) ← readAssignment value text
    some (read, skipBlanks rest)
  let (assignments, rest) := (readItems assignment text.length text).getD ([], skipBlanks text)
  let members ← assignments.foldlM (fun members (key, value) => assign key value members) []
  match rest with
  | '\x7d' :: rest => some (.table (finishMembers members), rest)
  | _ => none

/-- A value in which at most `depth` arrays and inline tables hold one another. -/
def readValue : Nat → Reader Toml
  | depth + 1, '[' :: rest => do
    let (elements, rest) ← readElements (readValue depth) rest
    some (.array elements, rest)
  | depth + 1, '\x7b' :: rest => readInlineTable (readValue depth) rest
  | _, text => readScalar text

/-! ## Documents -/

/-- A table under construction, and the names that lead to the table that keys add to. -/
structure Document where
  members : Members := []
  place : List String := []

namespace Document

/-- Adds the value of a key to the table of the last header. -/
def assign (document : Document) (key : Key) (value : Toml) : Option Document := do
  let members ← changeAt .implied (fun _ members => Toml.assign key value members)
    document.place .opened document.members
  some { document with members }

/-- Goes on with the table of a header. -/
def enter (document : Document) (change : Key → Members → Option Members) (key : Key) :
    Option Document := do
  some ⟨← change key document.members, key.tables ++ [key.name]⟩

/-- A line that is not empty, up to the white space at its end. -/
def readStatement (document : Document) : Reader Document
  | '[' :: '[' :: rest => do
    let (key, rest) ← readKey rest
    match rest with
    | ']' :: ']' :: rest => some (← document.enter openElement key, rest)
    | _ => none
  | '[' :: rest => do
    let (key, rest) ← readKey rest
    match rest with
    | ']' :: rest => some (← document.enter openTable key, rest)
    | _ => none
  | text => do
    let ((key, value), rest) ← readAssignment (readValue nestingLimit) text
    some (← document.assign key value, rest)

/-- The document after all lines of a text, which are at most `fuel` in number. -/
def readLines : Nat → Document → List Char → Option Document
  | _, document, [] => some document
  | 0, _, _ => none
  | fuel + 1, document, text =>
    match endOfLine? text with
    | some rest => readLines fuel document rest
    | none => do
      let (document, rest) ← document.readStatement (skipBlanks text)
      readLines fuel document (← endOfLine? rest)

end Document

/-- The members of the table that a text stands for.  A mark of the byte order in front does not
count. -/
def read? (text : String) : Option (List (String × Toml)) := do
  let text := match text.toList with
    | '\ufeff' :: rest => rest
    | text => text
  let document ← Document.readLines text.length {} text
  some (finishMembers document.members)

end ShaderCalls.Toml
