import Mathlib.Data.List.Forall2
import ShaderCalls.Export.Backend
import ShaderCalls.Export.ManifestEntry
import ShaderCalls.Proofs.Json.RoundTrip

/-!
# Reading manifests

The manifest of a program is a JSON value that tells what its entry holds, and that of several
programs is the array of theirs.
-/

namespace ShaderCalls

/-- The decimal digits of a count are read as the count. -/
theorem Text.word32?_toDigits (count : UInt32) :
    word32? (Nat.toDigits 10 count.toNat) = some count := by
  obtain ⟨first, more, hsome, hother⟩ := Json.exists_toDigits_eq count.toNat
  have hplus : first ≠ '+' := hother '+' rfl
  have hvalue : digitsValue (first :: more) = count.toNat := by
    rw [← hsome]
    exact Nat.ofDigitChars_ten_toDigits
  have hdigits : (first :: more).all Char.isDigit := by
    rw [← hsome, List.all_eq_true]
    exact Json.isDigit_of_mem_toDigits
  have hbound : count.toNat < valuesOf 32 := count.toNat_lt
  have hcount : decimal? (first :: more) = some count.toNat := by
    rw [decimal?, hvalue, hdigits]
    rfl
  have hplain : ∀ digits, first :: more = '+' :: digits → False := fun digits heq =>
    absurd (List.cons.inj heq).1 hplus
  rw [hsome, word32?]
  · simp [hcount, hbound]
  · exact hplain

/-- A list of values is read if each of them is. -/
theorem Description.list?_array_map {α β : Type} {decode : Json → Option β} {form : α → Json}
    {value : α → β} (hdecode : ∀ entry, decode (form entry) = some (value entry))
    (entries : List α) : list? decode (.array (entries.map form)) = some (entries.map value) := by
  rw [list?]
  induction entries with
  | nil => rfl
  | cons entry rest ih => simp [hdecode, ih]

namespace Manifest

open Description

/-! ## Entries -/

theorem parameter?_ofParameter (parameter : TypedParameter) :
    parameter? (ofParameter parameter) = some parameter := by
  simp [parameter?, ofParameter, required, Json.membersNamed, text?]

theorem dispatch?_ofDispatch (dispatch : Dispatch) :
    dispatch? (ofDispatch dispatch) = some dispatch := by
  simp [dispatch?, ofDispatch, required, Json.membersNamed, word?, Json.ofNat,
    Text.word32?_toDigits]

theorem kind?_title (kind : Kind) : kind? (.string kind.title) = some kind := by
  cases kind <;> decide

theorem function?_ofFunction (function : FunctionRecord) :
    function? (ofFunction function) = some (.ofRecord function) := by
  have hparameters : list? parameter? (.array (function.parameters.map ofParameter)) =
      some function.parameters := by
    rw [list?_array_map parameter?_ofParameter, List.map_id']
  -- Only a compute function has a member for its counts.
  by_cases hcompute : function.kind = .compute
  · have hdispatch : option? dispatch? (ofDispatch function.dispatch) =
        some (some function.dispatch) := by
      rw [option?, dispatch?_ofDispatch]
      · rfl
      · exact fun heq => Json.noConfusion heq
    simp [function?, ofFunction, required, Description.optional, defaulted, Json.membersNamed,
      text?, FunctionEntry.ofRecord, kind?_title, hcompute, hparameters, hdispatch]
  · simp [function?, ofFunction, required, Description.optional, defaulted, Json.membersNamed,
      text?, FunctionEntry.ofRecord, kind?_title, hcompute, hparameters]

theorem call?_ofCall (call : FunctionId × FunctionId) :
    call? (ofCall call) = some (.ofCall call) := by
  simp [call?, ofCall, required, Json.membersNamed, text?, CallEntry.ofCall]

theorem program?_ofProgram (program : Program) :
    program? (ofProgram program) = some (.ofProgram program) := by
  have hfunctions := list?_array_map function?_ofFunction program.functions
  have hcalls := list?_array_map call?_ofCall program.calls
  simp [program?, ofProgram, required, Json.membersNamed, text?, kind?_title, hfunctions, hcalls,
    ProgramEntry.ofProgram]

theorem membersNamed_dispatch (function : FunctionRecord) :
    (ofFunction function).membersNamed "dispatch" ≠ [] ↔ function.kind = .compute := by
  by_cases hcompute : function.kind = .compute <;>
    simp [ofFunction, Json.membersNamed, hcompute]

/-! ## Nesting -/

section

open Json (Within)

theorem within_ofParameter (depth : Nat) (parameter : TypedParameter) :
    Within (depth + 1) (ofParameter parameter) := by
  apply Within.object
  simp only [List.forall_mem_cons]
  exact ⟨.string _, .string _, List.forall_mem_nil _⟩

theorem within_ofDispatch (depth : Nat) (dispatch : Dispatch) :
    Within (depth + 1) (ofDispatch dispatch) := by
  apply Within.object
  simp only [List.forall_mem_cons]
  exact ⟨.ofNat _, .ofNat _, .ofNat _, List.forall_mem_nil _⟩

theorem within_ofFunction (depth : Nat) (function : FunctionRecord) :
    Within (depth + 3) (ofFunction function) := by
  have hparameters : Within (depth + 2) (.array (function.parameters.map ofParameter)) := by
    apply Within.array
    rw [List.forall_mem_map]
    exact fun parameter _ => within_ofParameter depth parameter
  apply Within.object
  rw [List.forall_mem_append, List.forall_mem_append]
  refine ⟨⟨?_, ?_⟩, ?_⟩
  · simp only [List.forall_mem_cons]
    exact ⟨.string _, .string _, .string _, .string _, hparameters, List.forall_mem_nil _⟩
  · split
    · simp only [List.forall_mem_cons]
      exact ⟨within_ofDispatch (depth + 1) _, List.forall_mem_nil _⟩
    · exact List.forall_mem_nil _
  · simp only [List.forall_mem_cons]
    exact ⟨.string _, List.forall_mem_nil _⟩

theorem within_ofCall (depth : Nat) (call : FunctionId × FunctionId) :
    Within (depth + 1) (ofCall call) := by
  apply Within.object
  simp only [List.forall_mem_cons]
  exact ⟨.string _, .string _, List.forall_mem_nil _⟩

theorem within_ofProgram (depth : Nat) (program : Program) :
    Within (depth + 5) (ofProgram program) := by
  have hfunctions : Within (depth + 4) (.array (program.functions.map ofFunction)) := by
    apply Within.array
    rw [List.forall_mem_map]
    exact fun function _ => within_ofFunction depth function
  have hcalls : Within (depth + 4) (.array (program.calls.map ofCall)) := by
    apply Within.array
    rw [List.forall_mem_map]
    exact fun call _ => within_ofCall (depth + 2) call
  apply Within.object
  simp only [List.forall_mem_cons]
  exact ⟨.string _, .string _, hfunctions, hcalls, List.forall_mem_nil _⟩

end

/-! ## Texts -/

theorem read?_emit (program : Program) :
    Json.read? (Backend.json.emit program) = some (ofProgram program) :=
  Json.read?_render (within_ofProgram 122 program)

theorem read?_emitAll (programs : List Program) :
    Json.read? (Backend.json.emitAll programs) = some (.array (programs.map ofProgram)) := by
  apply Json.read?_render
  apply Json.Within.array
  rw [List.forall_mem_map]
  exact fun program _ => within_ofProgram 121 program

/-- The manifest of a program is one JSON value.  It tells the entry of the program, with workgroup
counts for the compute functions alone.  The manifest of several programs is the array of what
theirs are. -/
theorem manifest_reads_back :
    (∀ program : Program, ∃ value functions,
      Json.read? (Backend.json.emit program) = some value ∧
        program? value = some (.ofProgram program) ∧
        value.membersNamed "functions" = [.array functions] ∧
        List.Forall₂ (fun (function : FunctionRecord) (object : Json) =>
          object.membersNamed "dispatch" ≠ [] ↔ function.kind = .compute)
          program.functions functions) ∧
    (∀ programs : List Program, ∃ values,
      Json.read? (Backend.json.emitAll programs) = some (.array values) ∧
        List.Forall₂ (fun (program : Program) (value : Json) =>
          Json.read? (Backend.json.emit program) = some value) programs values) := by
  constructor
  · intro program
    refine ⟨ofProgram program, program.functions.map ofFunction, read?_emit program,
      program?_ofProgram program, rfl, ?_⟩
    rw [List.forall₂_map_right_iff, List.forall₂_same]
    exact fun function _ => membersNamed_dispatch function
  · intro programs
    refine ⟨programs.map ofProgram, read?_emitAll programs, ?_⟩
    rw [List.forall₂_map_right_iff, List.forall₂_same]
    exact fun program _ => read?_emit program

end Manifest

end ShaderCalls
