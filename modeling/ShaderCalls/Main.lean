import ShaderCalls.CommandLine.Command

/-!
# The program

Reads what the options name from the disk, runs the command on it, and prints or saves what the
command produces.
-/

namespace ShaderCalls.Disk

def readFile (path : String) : IO FileNode := do
  return .file (String.fromUTF8? (← IO.FS.readBinFile path))

/-- What stands at a path and below it.  Of a directory no more is read than its sources. -/
partial def read (path : String) : IO FileNode := do
  let place := (← IO.currentDir) / path
  if ← place.isDir then
    if isSkipped path then return .directory []
    let names := (← place.readDir).toList.map (·.fileName)
    return .directory (← names.mapM fun name => do return (name, ← read (Path.join path name)))
  else if Path.extension? path = some sourceExtension then readFile path
  else return .file none

/-- Adds what a path leads to and the directories on the way. -/
def add (files : Files) (path : String) : IO Files := do
  let components := Path.components path
  let mut files := files
  for depth in List.range components.length do
    let above := "/".intercalate ((components.take depth).map (·.text))
    if ← ((← IO.currentDir) / above).isDir then files := files.put above (.directory [])
  let place := (← IO.currentDir) / path
  if ← place.isDir then return files.put path (← read path)
  else if ← place.pathExists then return files.put path (← readFile path)
  else return files

/-- The files that the options name. -/
def load (options : Options) : IO Files := do
  let names := (Path.components (← IO.currentDir).toString).filterMap fun component =>
    match component with
    | .named name => some name
    | _ => none
  let start : Files := { root := .directory [], place := names }
  let files ← (Command.paths options).foldlM add (start.put "." (.directory []))
  let workspace := (files.readText Command.descriptionFile).toOption.bind Workspace.ofDescription?
  match workspace with
  | some workspace => (workspace.directories.map (·.1)).foldlM add files
  | none => return files

end ShaderCalls.Disk

open ShaderCalls

def main (arguments : List String) : IO UInt32 := do
  match Options.parse? arguments with
  | none =>
    IO.eprintln Command.usage
    return 2
  | some options =>
    let files ← Disk.load options
    let output := Command.perform files options
    let outcome := Command.deliver files output
    IO.print outcome.stdout
    if let .ok (.saved path text _) := output then
      if outcome.code = 0 then IO.FS.writeFile path text
    if !outcome.stderr.isEmpty then IO.eprintln outcome.stderr
    return outcome.code
