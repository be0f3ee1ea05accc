import ShaderCalls.CommandLine.Options
import ShaderCalls.Config.Settings
import ShaderCalls.Discovery.Session
import ShaderCalls.Index.Resolution
import ShaderCalls.Project.Workspace

/-!
# The command

What the command does with the files that it is run on: it lists the entry points of the sources,
or discovers some of them and writes out their programs.
-/

namespace ShaderCalls

/-- Why the command fails. -/
inductive CommandError where
  | readConfig (path : String) (cause : FileError)
  | invalidConfig (path : String)
  | load (error : LoadError)
  | noSources
  /-- The text of an entry point is no identity. -/
  | invalidEntry (text : String)
  | noEntries
  | discovery (error : DiscoveryError)
  | write (path : String) (cause : FileError)
  deriving DecidableEq, Repr

def CommandError.message : CommandError → String
  | .readConfig path cause => "Failed to read config " ++ path ++ ": " ++ cause.message
  | .invalidConfig path => "Invalid config " ++ path
  | .load error => error.message
  | .noSources =>
    "Please provide at least one --input <file> or --folder <dir> or --workspace <Cargo.toml>"
  | .invalidEntry text => s!"Invalid entry point `{text}`, expected `Type::function`"
  | .noEntries => "No entry points to discover: pass --entry <Type::function> or --all"
  | .discovery error => error.message
  | .write path cause => "Failed to write " ++ path ++ ": " ++ cause.message

/-- What the command produces. -/
inductive Output where
  /-- A text for the standard output. -/
  | printed (text : String)
  /-- A text for a file, with the number of entry points that it is about. -/
  | saved (path text : String) (entries : Nat)
  deriving DecidableEq, Repr

/-- What is seen of the command when it has ended. -/
structure Outcome where
  /-- Zero for success, one for a failure, two for arguments that do not fit together. -/
  code : UInt32
  stdout : String := ""
  stderr : String := ""
  /-- The files after the command. -/
  files : Files

namespace Command

/-- The file that describes the workspace: what `cargo metadata` prints about it. -/
def descriptionFile : String :=
  "metadata.json"

variable (files : Files) (options : Options)

def settings : Except CommandError Settings :=
  match options.config with
  | none => .ok {}
  | some path =>
    match files.readText path with
    | .error cause => .error (.readConfig path cause)
    | .ok text =>
      match Settings.ofToml? text with
      | some settings => .ok settings
      | none => .error (.invalidConfig path)

/-- The sources of the workspace, if one is asked for. -/
def workspaceSources : Except LoadError (List SourceFile) :=
  match options.workspace with
  | none => .ok []
  | some _ => files.loadWorkspace ((files.readText descriptionFile).toOption.getD "")

/-- All sources that the options name. -/
def loadSources : Except LoadError (List SourceFile) := do
  let inputs ← options.inputs.mapM (files.loadFile · options.crate)
  let folders ← options.folders.mapM (files.loadFolder · options.crate)
  let members ← workspaceSources files options
  .ok (inputs ++ folders.flatten ++ members)

def sources : Except CommandError (List SourceFile) :=
  match loadSources files options with
  | .error error => .error (.load error)
  | .ok [] => .error .noSources
  | .ok sources => .ok sources

/-- The line of an entry point in the list of all. -/
def entryLine (index : SymbolIndex) (entry : EntryPoint) : String :=
  let location := ((index.function? entry.id).map (·.location)).getD ""
  entry.kind.display { width := 9 } ++ " " ++ entry.id.text ++ "  (" ++ location ++ ")\n"

/-- The entry points to discover. -/
def roots (found : List EntryPoint) : Except CommandError (List FunctionId) := do
  let roots ←
    if options.all then .ok (found.map (·.id))
    else options.entries.mapM fun text =>
      match FunctionId.parse? text with
      | some id => .ok id
      | none => .error (.invalidEntry text)
  if roots.isEmpty then .error .noEntries else .ok roots

/-- The text of the programs of entry points. -/
def render (resolver : Resolver) (markers : Markers) (roots : List FunctionId) :
    Except CommandError String :=
  match discoverEach resolver markers roots with
  | .ok programs => .ok (options.backend.emitAll programs)
  | .error error => .error (.discovery error)

/-- What the command produces from its sources. -/
def produce (settings : Settings) (sources : List SourceFile) : Except CommandError Output := do
  let index := SymbolIndex.ofFiles sources
  let found := entryPoints index.resolver settings.markers index.identities
  if options.list then .ok (.printed (String.join (found.map (entryLine index))))
  else
    let roots ← roots options found
    let text ← render options index.resolver settings.markers roots
    match options.output with
    | some path => .ok (.saved path text roots.length)
    | none => .ok (.printed (text ++ "\n"))

/-- What the command produces for its options. -/
def perform : Except CommandError Output := do
  let settings ← settings files options
  let sources ← sources files options
  produce options settings sources

/-- What is said about arguments that do not fit together. -/
def usage : String :=
  "Usage: [--input <file>] [--folder <dir>] [--workspace <Cargo.toml>] [--crate-name <name>] " ++
    "[--entry <Type::function> | --all] [--list] [--config <file>] [--format json|dot|text] " ++
    "[--output <file>]"

/-- The paths that the command reads or writes. -/
def paths (options : Options) : List String :=
  options.config.toList ++ options.inputs ++ options.folders ++ options.output.toList ++
    (if options.workspace.isSome then [descriptionFile] else [])

/-- What is said about an error. -/
def failure (error : CommandError) : String :=
  "Error: " ++ error.message

/-- What is said about a text that has been written to a file. -/
def success (path : String) (entries : Nat) : String :=
  s!"Discovered {entries} entry point(s), output written to {path}"

/-- What is seen of an output. -/
def deliver : Except CommandError Output → Outcome
  | .ok (.printed text) => { code := 0, stdout := text, files }
  | .ok (.saved path text entries) =>
    match files.write path text with
    | .ok files => { code := 0, stderr := success path entries, files }
    | .error cause => { code := 1, stderr := failure (.write path cause), files }
  | .error error => { code := 1, stderr := failure error, files }

/-- What is seen of the command when it is run with arguments. -/
def run (arguments : List String) : Outcome :=
  match Options.parse? arguments with
  | some options => deliver files (perform files options)
  | none => { code := 2, files }

end Command

end ShaderCalls
