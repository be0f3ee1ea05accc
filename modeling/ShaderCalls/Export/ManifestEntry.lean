import ShaderCalls.Export.Manifest
import ShaderCalls.Json.Description
import ShaderCalls.Json.Reader

/-!
# Manifest entries

What a manifest tells of a program, and how it is read back.  The root and the calls are told by the
texts of their identities, and workgroup counts only of compute functions.
-/

namespace ShaderCalls

/-- The kind of a name in manifests. -/
def Kind.ofTitle? (title : String) : Option Kind :=
  [Kind.normal, .vertex, .fragment, .compute].find? (·.title == title)

namespace Manifest

/-- What a manifest tells of a function. -/
structure FunctionEntry where
  owner : String
  name : String
  kind : Kind
  result : String
  parameters : List TypedParameter
  dispatch : Option Dispatch
  body : String
  deriving DecidableEq, Repr

/-- What a manifest tells of a call. -/
structure CallEntry where
  caller : String
  callee : String
  deriving DecidableEq, Repr

/-- What a manifest tells of a program. -/
structure ProgramEntry where
  root : String
  kind : Kind
  functions : List FunctionEntry
  calls : List CallEntry
  deriving DecidableEq, Repr

def FunctionEntry.ofRecord (function : FunctionRecord) : FunctionEntry where
  owner := function.id.owner
  name := function.id.name
  kind := function.kind
  result := function.result
  parameters := function.parameters
  dispatch := if function.kind = .compute then some function.dispatch else none
  body := function.body

def CallEntry.ofCall (call : FunctionId × FunctionId) : CallEntry where
  caller := call.1.text
  callee := call.2.text

def ProgramEntry.ofProgram (program : Program) : ProgramEntry where
  root := program.root.text
  kind := program.kind
  functions := program.functions.map .ofRecord
  calls := program.calls.map .ofCall

/-! ## Reading -/

open Description

def kind? (value : Json) : Option Kind :=
  (text? value).bind Kind.ofTitle?

/-- A count that fits into 32 bits. -/
def word? : Json → Option UInt32
  | .number spelling => Text.word32? spelling
  | _ => none

def parameter? (object : Json) : Option TypedParameter := do
  let name ← required object "name" text?
  let type ← required object "type" text?
  some ⟨name, type⟩

def dispatch? (object : Json) : Option Dispatch := do
  let x ← required object "x" word?
  let y ← required object "y" word?
  let z ← required object "z" word?
  some ⟨x, y, z⟩

def function? (object : Json) : Option FunctionEntry := do
  let owner ← required object "owner" text?
  let name ← required object "name" text?
  let kind ← required object "kind" kind?
  let result ← required object "return_type" text?
  let parameters ← required object "parameters" (list? parameter?)
  let dispatch ← optional object "dispatch" dispatch?
  let body ← required object "body" text?
  some ⟨owner, name, kind, result, parameters, dispatch, body⟩

def call? (object : Json) : Option CallEntry := do
  let caller ← required object "from" text?
  let callee ← required object "to" text?
  some ⟨caller, callee⟩

def program? (object : Json) : Option ProgramEntry := do
  let root ← required object "root" text?
  let kind ← required object "kind" kind?
  let functions ← required object "functions" (list? function?)
  let calls ← required object "calls" (list? call?)
  some ⟨root, kind, functions, calls⟩

end Manifest

end ShaderCalls
