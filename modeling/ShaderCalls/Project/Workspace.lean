import ShaderCalls.Json.Description
import ShaderCalls.Json.Reader
import ShaderCalls.Project.Sources
import ShaderCalls.Project.Version

/-!
# Workspaces

A workspace has packages, and a package has targets, each with the file that it begins in.  The
description of a workspace is a line of JSON, which is refused unless every field that it gives has
its form.
-/

namespace ShaderCalls

structure Target where
  kinds : List String
  /-- The path of the file that the target begins in. -/
  source : String
  deriving DecidableEq, Repr

structure Package where
  id : String
  name : String
  targets : List Target
  deriving DecidableEq, Repr

structure Workspace where
  /-- The identities of the packages that belong to it. -/
  members : List String
  packages : List Package
  deriving DecidableEq, Repr

/-! ## Descriptions -/

namespace Description

def isEdition (text : String) : Bool :=
  ["2015", "2018", "2021", "2024", "2027", "2030"].contains text

def edition? (object : Json) : Option String :=
  defaulted object "edition" "2015" (textWhere? isEdition)

def target? (object : Json) : Option Target := do
  let _ ← required object "name" text?
  let kinds ← required object "kind" texts?
  let _ ← defaulted object "crate_types" [] texts?
  let _ ← defaulted object "required-features" [] texts?
  let source ← required object "src_path" text?
  let _ ← edition? object
  let _ ← ["doctest", "test", "doc"].mapM (defaulted object · true flag?)
  some ⟨kinds, source⟩

def dependency? (object : Json) : Option Unit := do
  let _ ← required object "name" text?
  let _ ← required object "req" (textWhere? Version.isRequirement)
  let _ ← required object "kind" (option? text?)
  let _ ← ["optional", "uses_default_features"].mapM (required object · flag?)
  let _ ← required object "features" texts?
  let _ ← ["source", "target", "rename", "registry", "path"].mapM (optional object · text?)
  some ()

def package? (object : Json) : Option Package := do
  let name ← required object "name" text?
  let _ ← required object "version" (textWhere? Version.isVersion)
  let id ← required object "id" text?
  let _ ← required object "dependencies" (list? dependency?)
  let targets ← required object "targets" (list? target?)
  let _ ← required object "features" (map? texts?)
  let _ ← required object "manifest_path" text?
  let _ ← ["authors", "categories", "keywords"].mapM (defaulted object · [] texts?)
  let _ ← ["source", "description", "license", "license_file", "readme", "repository", "homepage",
    "documentation", "links", "default_run"].mapM (optional object · text?)
  let _ ← optional object "rust_version" (textWhere? Version.isCompilerVersion)
  let _ ← optional object "publish" texts?
  let _ ← edition? object
  let _ ← defaulted object "metadata" .null some
  some ⟨id, name, targets⟩

/-- A use of one package by another in a resolved graph. -/
def link? (object : Json) : Option Unit := do
  let _ ← ["name", "pkg"].mapM (required object · text?)
  let _ ← defaulted object "dep_kinds" [] (list? fun kind => do
    let _ ← required kind "kind" (option? text?)
    optional kind "target" text?)
  some ()

/-- A package in a resolved graph. -/
def resolved? (object : Json) : Option Unit := do
  let _ ← required object "id" text?
  let _ ← defaulted object "deps" [] (list? link?)
  let _ ← required object "dependencies" texts?
  let _ ← defaulted object "features" [] texts?
  some ()

/-- A resolved graph of packages. -/
def graph? (object : Json) : Option Unit := do
  let _ ← required object "nodes" (list? resolved?)
  let _ ← optional object "root" text?
  some ()

def workspace? (object : Json) : Option Workspace := do
  let packages ← required object "packages" (list? package?)
  let members ← required object "workspace_members" texts?
  let _ ← optional object "workspace_default_members" texts?
  let _ ← optional object "resolve" graph?
  let _ ← ["workspace_root", "target_directory"].mapM (required object · text?)
  let _ ← defaulted object "metadata" .null some
  let _ ← required object "version" count?
  some ⟨members, packages⟩

end Description

/-- The workspace that a text describes in the first of its lines that begins with a brace. -/
def Workspace.ofDescription? (text : String) : Option Workspace := do
  let line ← (Text.splitAll '\n' text.toList).find? (·.head? == some '\x7b')
  Description.workspace? (← Json.read? (String.ofList line))

/-! ## Sources -/

/-- Whether a target is built from sources that shaders may stand in. -/
def Target.hasSources (target : Target) : Bool :=
  target.kinds.any fun kind => kind == "lib" || kind == "bin"

/-- The name of the crate that a package is. -/
def Package.crate (package : Package) : String :=
  package.name.map fun char => if char = '-' then '_' else char

/-- The directories with sources, each with its crate: those of the members in their order. -/
def Workspace.directories (workspace : Workspace) : List (String × String) :=
  workspace.members.flatMap fun member =>
    match workspace.packages.find? (·.id == member) with
    | none => []
    | some package =>
      (package.targets.filter Target.hasSources).map fun target =>
        (Path.directory target.source, package.crate)

/-- Drops each file whose path the file before it has; `previous` is the path before the first. -/
def SourceFile.dropRepeated (previous : Option String) : List SourceFile → List SourceFile
  | [] => []
  | file :: rest =>
    if previous = some file.path then dropRepeated previous rest
    else file :: dropRepeated (some file.path) rest

/-- The source files of a workspace in the order of their paths, each once and under the first crate
that has it. -/
def Files.loadMembers (files : Files) (workspace : Workspace) :
    Except LoadError (List SourceFile) := do
  let listed ← workspace.directories.mapM fun (directory, crate) =>
    files.listSources directory crate
  .ok (SourceFile.dropRepeated none (SourceFile.sorted listed.flatten))

/-- The source files of the workspace that a text describes. -/
def Files.loadWorkspace (files : Files) (description : String) :
    Except LoadError (List SourceFile) :=
  match Workspace.ofDescription? description with
  | some workspace => files.loadMembers workspace
  | none => .error .describeWorkspace

end ShaderCalls
