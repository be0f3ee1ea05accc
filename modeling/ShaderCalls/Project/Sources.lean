import ShaderCalls.Files.Tree
import ShaderCalls.Index.Outline
import ShaderCalls.Ordered
import ShaderCalls.Project.ModuleFile

/-!
# Source files of a crate

The source files below a directory, in the order of their paths.  Build results and the history of
changes are no sources.
-/

namespace ShaderCalls

/-- Why source files cannot be loaded. -/
inductive LoadError where
  | readFile (path : String) (cause : FileError)
  | readDirectory (path : String) (cause : FileError)
  /-- There is no usable description of the workspace. -/
  | describeWorkspace
  deriving DecidableEq, Repr

namespace LoadError

/-- What could not be done. -/
def context : LoadError → String
  | .readFile path _ => "Failed to read file " ++ path
  | .readDirectory path _ => "Failed to read directory " ++ path
  | .describeWorkspace => "Failed to execute cargo metadata"

/-- What could not be done, and why. -/
def message (error : LoadError) : String :=
  match error with
  | .readFile _ cause => error.context ++ ": " ++ cause.message
  | .readDirectory _ cause => error.context ++ ": " ++ cause.message
  | .describeWorkspace => error.context

end LoadError

/-- The extension of source files. -/
def sourceExtension : String :=
  "rs"

/-- The names of directories without sources. -/
def skippedDirectories : List String :=
  ["target", ".git"]

/-- Whether a path leads to a directory without sources. -/
def isSkipped (directory : String) : Bool :=
  (Path.name? directory).any skippedDirectories.contains

namespace FileNode

variable (root crate : String)

mutual

/-- The source files of a crate with a root that are found at a path, in the order in which they are
listed. -/
def sources (path : String) : FileNode → Except LoadError (List SourceFile)
  | .directory entries => if isSkipped path then .ok [] else entrySources path entries
  | .file text =>
    if Path.extension? path = some sourceExtension then
      match text with
      | some text => .ok [⟨modulePath root path crate, path, text⟩]
      | none => .error (.readFile path .notText)
    else .ok []

/-- The source files found at the entries of a directory. -/
def entrySources (directory : String) :
    List (String × FileNode) → Except LoadError (List SourceFile)
  | [] => .ok []
  | (name, node) :: rest => do
    let first ← sources (Path.join directory name) node
    let others ← entrySources directory rest
    .ok (first ++ others)

end

end FileNode

/-- Source files in the order of their paths. -/
def SourceFile.sorted (sources : List SourceFile) : List SourceFile :=
  sources.mergeSort fun left right => (compare left.path right.path).isLE

namespace Files

variable (files : Files)

/-- The source files of a crate below a directory in the order in which they are listed.  A missing
directory has none. -/
def listSources (directory crate : String) : Except LoadError (List SourceFile) :=
  if isSkipped directory then .ok []
  else
    match files.node directory with
    | .error _ => .ok []
    | .ok (.file _) => .error (.readDirectory directory .notDirectory)
    | .ok node => node.sources directory crate directory

/-- The source files of a crate below a directory. -/
def loadFolder (directory crate : String) : Except LoadError (List SourceFile) :=
  (files.listSources directory crate).map SourceFile.sorted

/-- A file as the module that a crate itself is. -/
def loadFile (path crate : String) : Except LoadError SourceFile :=
  match files.readText path with
  | .ok text => .ok ⟨crate, path, text⟩
  | .error cause => .error (.readFile path cause)

end Files

end ShaderCalls
