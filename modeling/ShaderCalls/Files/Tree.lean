import ShaderCalls.Files.Path

/-!
# File trees

A tree of directories with a directory in it that relative paths are read from.  A path is followed
component by component, as far as each one names an entry of a directory.
-/

namespace ShaderCalls

inductive FileNode where
  /-- A file with its text; none if its bytes are no text in UTF-8. -/
  | file (text : Option String)
  /-- A directory with its entries in the order in which they are listed. -/
  | directory (entries : List (String × FileNode))
  deriving Repr

/-- Why the system refuses a path. -/
inductive FileError where
  | notFound
  | notDirectory
  | isDirectory
  | nameTooLong
  | notText
  deriving DecidableEq, Repr

def FileError.message : FileError → String
  | .notFound => "No such file or directory (os error 2)"
  | .notDirectory => "Not a directory (os error 20)"
  | .isDirectory => "Is a directory (os error 21)"
  | .nameTooLong => "File name too long (os error 36)"
  | .notText => "stream did not contain valid UTF-8"

namespace FileNode

def isDirectory : FileNode → Bool
  | .file _ => false
  | .directory _ => true

/-- The entries of a directory; a file has none. -/
def entries : FileNode → List (String × FileNode)
  | .file _ => []
  | .directory entries => entries

/-- The entry of a name. -/
def entry? (node : FileNode) (name : String) : Option FileNode :=
  node.entries.lookup name

/-- What names lead to, one directory after the other. -/
def find? : FileNode → List String → Option FileNode
  | node, [] => some node
  | node, name :: names => (node.entry? name).bind (find? · names)

/-- The entries with one of them changed, or added at the end. -/
def setEntry (name : String) (node : FileNode) : List (String × FileNode) → List (String × FileNode)
  | [] => [(name, node)]
  | (other, old) :: rest =>
    if other = name then (name, node) :: rest else (other, old) :: setEntry name node rest

/-- Puts `new` where names lead to, with directories on the way there. -/
def insert : FileNode → List String → FileNode → FileNode
  | _, [], new => new
  | node, name :: names, new =>
    let old := (node.entry? name).getD (.directory [])
    .directory (setEntry name (insert old names new) node.entries)

end FileNode

/-- A file tree seen from one of its directories. -/
structure Files where
  root : FileNode
  /-- The names that lead to the directory that relative paths are read from. -/
  place : List String := []

namespace Files

/-- The longest name of an entry, in bytes. -/
def longestName : Nat :=
  255

variable (files : Files)

/-- One step along a path from a directory, known by the names that lead to it. -/
def step (place : List String) (component : Path.Component) : Except FileError (List String) :=
  match files.root.find? place with
  | some (.directory entries) =>
    match component with
    | .root => .ok []
    | .here => .ok place
    | .parent => .ok place.dropLast
    | .named name =>
      if longestName < name.utf8ByteSize then .error .nameTooLong
      else if (entries.lookup name).isSome then .ok (place ++ [name])
      else .error .notFound
  | _ => .error .notDirectory

/-- Where a path leads to, as the names from the root. -/
def follow (components : List Path.Component) : Except FileError (List String) :=
  components.foldlM files.step files.place

/-- What a path leads to.  A path that ends in a slash or in a lone dot leads to a directory. -/
def node (path : String) : Except FileError FileNode :=
  if path.isEmpty then .error .notFound
  else do
    let place ← files.follow (Path.components path)
    match files.root.find? place, (Path.parts path).getLast? with
    | some (.directory entries), _ => .ok (.directory entries)
    | some (.file _), some [] => .error .notDirectory
    | some (.file _), some ['.'] => .error .notDirectory
    | some (.file text), _ => .ok (.file text)
    | none, _ => .error .notFound

/-- The text of a file. -/
def readText (path : String) : Except FileError String := do
  match ← files.node path with
  | .file (some text) => .ok text
  | .file none => .error .notText
  | .directory _ => .error .isDirectory

/-- The tree with a text written to a file, which need not exist in its directory. -/
def write (path text : String) : Except FileError Files := do
  let components := Path.components path
  match components.getLast?, (Path.parts path).getLast? with
  | some (.named name), some part =>
    if part = ['.'] then refuse
    else
      let place ← files.follow components.dropLast
      match files.root.find? place with
      | some (.directory entries) =>
        if longestName < name.utf8ByteSize then .error .nameTooLong
        else if part.isEmpty || (entries.lookup name).any FileNode.isDirectory then
          .error .isDirectory
        else
          .ok { files with root := files.root.insert (place ++ [name]) (.file (some text)) }
      | _ => .error .notDirectory
  | _, _ => refuse
where
  /-- Why a path is refused that can lead to a directory alone. -/
  refuse : Except FileError Files := do
    let _ ← files.node path
    .error .isDirectory

/-- The tree with something put where the names of a path lead to; an existing directory is not
replaced by an empty one. -/
def put (path : String) (node : FileNode) : Files :=
  let names := (Path.components path).foldl (fun names component =>
    match component with
    | .root => []
    | .here => names
    | .parent => names.dropLast
    | .named name => names ++ [name]) files.place
  match node, files.root.find? names with
  | .directory [], some (.directory _) => files
  | _, _ => { files with root := files.root.insert names node }

end Files

end ShaderCalls
