import ShaderCalls.Text.Separator

/-!
# Paths

A path is a text whose parts are separated by slashes.  Its components say where it leads: empty
parts do not count, and a part of one dot counts only where a relative path begins with it.
-/

namespace ShaderCalls.Path

inductive Component where
  /-- The directory that holds all others. -/
  | root
  /-- The directory that the path is read from. -/
  | here
  /-- The directory above. -/
  | parent
  | named (name : String)
  deriving DecidableEq, Repr

namespace Component

def text : Component → String
  | .root => "/"
  | .here => "."
  | .parent => ".."
  | .named name => name

/-- The component that a part of a path stands for. -/
def ofPart? : List Char → Option Component
  | [] => none
  | ['.'] => none
  | ['.', '.'] => some .parent
  | name => some (.named (String.ofList name))

end Component

/-- The parts of a path between its slashes. -/
def parts (path : String) : List (List Char) :=
  Text.splitAll '/' path.toList

/-- What stands in front of the named components of a path. -/
def start (path : String) : List Component :=
  match path.toList with
  | '/' :: _ => [.root]
  | ['.'] => [.here]
  | '.' :: '/' :: _ => [.here]
  | _ => []

def components (path : String) : List Component :=
  start path ++ (parts path).filterMap Component.ofPart?

/-- The name that a path ends in. -/
def name? (path : String) : Option String :=
  match (components path).getLast? with
  | some (.named name) => some name
  | _ => none

/-- The parts of a name before and after the dot of its extension.  A dot at the front of a name
begins no extension. -/
def splitExtension (name : String) : Option (List Char × String) :=
  match Text.splitLast '.' name.toList with
  | none => none
  | some ([], _) => none
  | some (stem, extension) => some (stem, String.ofList extension)

/-- The extension of the name that a path ends in. -/
def extension? (path : String) : Option String := do
  let (_, extension) ← splitExtension (← name? path)
  some extension

/-- A component without the extension of its name.  What is left of `..x` is the directory
above. -/
def Component.withoutExtension : Component → Component
  | .named name =>
    match splitExtension name with
    | some (['.'], _) => .parent
    | some (stem, _) => (ofPart? stem).getD (.named name)
    | none => .named name
  | component => component

/-- The path of an entry of a directory. -/
def join (directory name : String) : String :=
  match directory.toList.getLast? with
  | none => name
  | some '/' => directory ++ name
  | some _ => directory ++ "/" ++ name

/-- Drops the parts, last one first, that are no components; the first part of the path stays. -/
def dropIdle : List (List Char) → List (List Char)
  | part :: next :: more =>
    if part.isEmpty || part = ['.'] then dropIdle (next :: more) else part :: next :: more
  | parts => parts

/-- The directory that holds what a path leads to.  The root and the empty path stay as they are. -/
def directory (path : String) : String :=
  match dropIdle (parts path).reverse with
  | [] => path
  | [[]] => path
  | [_] => ""
  | _ :: above =>
    match dropIdle above with
    | [[]] => "/"
    | kept => "/".intercalate (kept.reverse.map String.ofList)

end ShaderCalls.Path
