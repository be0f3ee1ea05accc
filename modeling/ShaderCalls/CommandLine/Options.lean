import ShaderCalls.Export.Backend
import ShaderCalls.Text.Separator

/-!
# Options

What the arguments of the command ask for.  Every argument belongs to an option; an option with a
value takes it from the same argument or from the next one.
-/

namespace ShaderCalls

/-- An option with a value. -/
inductive Parameter where
  | input
  | folder
  | workspace
  | crateName
  | entry
  | config
  | format
  | output
  deriving DecidableEq, Repr

namespace Parameter

def ofWord? : String → Option Parameter
  | "input" => some .input
  | "folder" => some .folder
  | "workspace" => some .workspace
  | "crate-name" => some .crateName
  | "entry" => some .entry
  | "config" => some .config
  | "format" => some .format
  | "output" => some .output
  | _ => none

def ofLetter? : Char → Option Parameter
  | 'i' => some .input
  | 'd' => some .folder
  | 'e' => some .entry
  | 'c' => some .config
  | 'f' => some .format
  | 'o' => some .output
  | _ => none

end Parameter

/-- An option without a value. -/
inductive Switch where
  | all
  | list
  deriving DecidableEq, Repr

def Switch.ofWord? : String → Option Switch
  | "all" => some .all
  | "list" => some .list
  | _ => none

/-- The backend of a name. -/
def Backend.ofWord? : String → Option Backend
  | "json" => some .json
  | "dot" => some .dot
  | "text" => some .text
  | _ => none

structure Options where
  /-- Files that are modules of their own. -/
  inputs : List String := []
  /-- Directories with the sources of a crate. -/
  folders : List String := []
  workspace : Option String := none
  crateName : Option String := none
  /-- The entry points to discover. -/
  entries : List String := []
  config : Option String := none
  format : Option Backend := none
  output : Option String := none
  /-- Whether to discover every entry point. -/
  all : Bool := false
  /-- Whether to list the entry points and stop. -/
  list : Bool := false
  deriving DecidableEq, Repr

/-- What an argument says by itself. -/
inductive Argument where
  | switch (switch : Switch)
  /-- An option with its value. -/
  | given (parameter : Parameter) (value : String)
  /-- An option whose value is the next argument. -/
  | awaiting (parameter : Parameter)
  /-- The mark after which no option follows. -/
  | last
  deriving DecidableEq, Repr

/-- What an argument says: `--word`, `--word=value`, `-l`, `-lvalue` or `-l=value`. -/
def Argument.ofText? (text : String) : Option Argument :=
  match text.toList with
  | ['-', '-'] => some .last
  | '-' :: '-' :: word =>
    match Text.splitFirst '=' word with
    | some (word, value) =>
      (Parameter.ofWord? (String.ofList word)).map (.given · (String.ofList value))
    | none =>
      match Switch.ofWord? (String.ofList word) with
      | some found => some (.switch found)
      | none => (Parameter.ofWord? (String.ofList word)).map .awaiting
  | '-' :: letter :: rest =>
    (Parameter.ofLetter? letter).map fun parameter =>
      match rest with
      | [] => .awaiting parameter
      | '=' :: value => .given parameter (String.ofList value)
      | value => .given parameter (String.ofList value)
  | _ => none

/-- Whether an argument can be the value of the option before it. -/
def isValue (text : String) : Bool :=
  text == "-" || text.toList.head? != some '-'

namespace Options

/-- The crate that files and directories belong to. -/
def crate (options : Options) : String :=
  options.crateName.getD "shaders"

def backend (options : Options) : Backend :=
  options.format.getD .json

/-- Sets an option that may be given once. -/
def once {α : Type} (old : Option α) (new : Option α) : Option (Option α) :=
  match old, new with
  | none, some value => some (some value)
  | _, _ => none

/-- A path, which is never empty. -/
def path? (text : String) : Option String :=
  if text.isEmpty then none else some text

/-- The options with the value of one more. -/
def give (options : Options) (parameter : Parameter) (value : String) : Option Options := do
  match parameter with
  | .input => some { options with inputs := options.inputs ++ [← path? value] }
  | .folder => some { options with folders := options.folders ++ [← path? value] }
  | .workspace => some { options with workspace := ← once options.workspace (path? value) }
  | .crateName => some { options with crateName := ← once options.crateName (some value) }
  | .entry => some { options with entries := options.entries ++ [value] }
  | .config => some { options with config := ← once options.config (path? value) }
  | .format => some { options with format := ← once options.format (Backend.ofWord? value) }
  | .output => some { options with output := ← once options.output (path? value) }

/-- The options with one more that has no value. -/
def turnOn (options : Options) : Switch → Option Options
  | .all => if options.all then none else some { options with all := true }
  | .list => if options.list then none else some { options with list := true }

/-- The options after all arguments. -/
def addAll (options : Options) : List String → Option Options
  | [] => some options
  | argument :: rest => do
    match ← Argument.ofText? argument with
    | .switch found => addAll (← options.turnOn found) rest
    | .given parameter value => addAll (← options.give parameter value) rest
    | .awaiting parameter =>
      match rest with
      | value :: rest =>
        if isValue value then addAll (← options.give parameter value) rest else none
      | [] => none
    | .last => if rest.isEmpty then some options else none

/-- What arguments ask for; none if they do not fit together. -/
def parse? (arguments : List String) : Option Options := do
  let options ← addAll {} arguments
  if options.all && !options.entries.isEmpty then none else some options

end Options

end ShaderCalls
