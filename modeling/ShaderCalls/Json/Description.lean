import ShaderCalls.Json.Value
import ShaderCalls.Text.Digits

/-!
# Descriptions

What a JSON value describes.  Each form of a value has a function that gives what it stands for, if
it has that form; a field of an object is given once, and some may be missing.
-/

namespace ShaderCalls.Description

variable {α : Type}

def text? : Json → Option String
  | .string text => some text
  | _ => none

def flag? : Json → Option Bool
  | .bool value => some value
  | _ => none

/-- A list of values of one form. -/
def list? (decode : Json → Option α) : Json → Option (List α)
  | .array elements => elements.mapM decode
  | _ => none

/-- A value of one form, or none. -/
def option? (decode : Json → Option α) : Json → Option (Option α)
  | .null => some none
  | value => (decode value).map some

/-- An object whose members all have one form. -/
def map? (decode : Json → Option α) : Json → Option (List (String × α))
  | .object members => members.mapM fun (name, value) => (decode value).map (name, ·)
  | _ => none

/-- A count that fits into 64 bits. -/
def count? : Json → Option Nat
  | .number spelling => do
    let value ← Text.decimal? spelling
    if value < Text.valuesOf 64 then some value else none
  | _ => none

/-- A text that passes a test. -/
def textWhere? (test : String → Bool) (value : Json) : Option String := do
  let text ← text? value
  if test text then some text else none

/-- A field that must be given once. -/
def required (object : Json) (name : String) (decode : Json → Option α) : Option α :=
  match object.membersNamed name with
  | [value] => decode value
  | _ => none

/-- A field that may be missing. -/
def defaulted (object : Json) (name : String) (default : α) (decode : Json → Option α) : Option α :=
  match object.membersNamed name with
  | [] => some default
  | [value] => decode value
  | _ => none

/-- A field that may be missing or null. -/
def optional (object : Json) (name : String) (decode : Json → Option α) : Option (Option α) :=
  defaulted object name none (option? decode)

def texts? : Json → Option (List String) :=
  list? text?

end ShaderCalls.Description
