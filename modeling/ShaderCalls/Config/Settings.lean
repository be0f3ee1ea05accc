import ShaderCalls.Shader.Kind
import ShaderCalls.Text.Decimal
import ShaderCalls.Toml.Reader

/-!
# Settings

The settings of a discovery, and how they are read from TOML.  Each setting that is not given keeps
its default; a setting of another name is refused, but not among the markers.
-/

namespace ShaderCalls

structure Settings where
  markers : Markers := {}
  /-- Whether entry points are discovered side by side. -/
  parallel : Bool := true
  /-- The share of the processor cores that may be used. -/
  workerRatio : Float := 0.5
  deriving Repr

namespace Settings

/-- Whether all settings compare equal to the defaults. -/
def isDefault (settings : Settings) : Bool :=
  let default : Settings := {}
  settings.markers = default.markers && settings.parallel == default.parallel &&
    settings.workerRatio == default.workerRatio

def text? : Toml → Option String
  | .string text => some text
  | _ => none

def flag? : Toml → Option Bool
  | .boolean value => some value
  | _ => none

/-- A ratio, as a float or as an integer. -/
def ratio? : Toml → Option Float
  | .float value => some value
  | .integer value => some (Text.nearestToInt value)
  | _ => none

/-- A setting that may be missing. -/
def given {α : Type} (value : Option Toml) (decode : Toml → Option α) (default : α) : Option α :=
  match value with
  | none => some default
  | some value => decode value

/-- The names of markers: a table, or an array of the names for vertex, fragment and compute
functions.  A moment counts as a table without markers. -/
def markers? : Toml → Option Markers
  | .table members => named (members.lookup ·)
  | .array elements =>
    named (((["vertex", "fragment", "compute"].zip elements).lookup ·))
  | .moment _ => some {}
  | _ => none
where
  named (member? : String → Option Toml) : Option Markers := do
    let default : Markers := {}
    let vertex ← given (member? "vertex") text? default.vertex
    let fragment ← given (member? "fragment") text? default.fragment
    let compute ← given (member? "compute") text? default.compute
    some { vertex, fragment, compute }

/-- The names of the settings. -/
def names : List String :=
  ["markers", "parallel", "worker_ratio"]

/-- The settings that a text of TOML gives. -/
def ofToml? (text : String) : Option Settings := do
  let members ← Toml.read? text
  if members.all fun (name, _) => names.contains name then
    let default : Settings := {}
    let markers ← given (members.lookup "markers") markers? default.markers
    let parallel ← given (members.lookup "parallel") flag? default.parallel
    let workerRatio ← given (members.lookup "worker_ratio") ratio? default.workerRatio
    some { markers, parallel, workerRatio }
  else none

end Settings

end ShaderCalls
