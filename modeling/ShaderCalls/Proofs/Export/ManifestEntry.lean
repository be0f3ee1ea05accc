import ShaderCalls.Export.ManifestEntry
import ShaderCalls.Proofs.Discovery.Records
import ShaderCalls.Proofs.Index.FunctionNames

/-!
# What manifest entries tell

An entry gives the root and the ends of a call by their texts, and drops the counts of a function
that is not compute.  For programs discovered in an index nothing is lost: what it names are
declared functions, whose names hold no colon, and what it drops is zero.
-/

namespace ShaderCalls

variable {files : List SourceFile} {markers : Markers} {root : FunctionId} {program : Program}

/-- The ends of a call are declared functions. -/
theorem declared_of_mem_calls {resolver : Resolver}
    (hdiscover : discover resolver markers root = .ok program)
    {call : FunctionId × FunctionId} (hcall : call ∈ program.calls) :
    Declared resolver.declaration? call.1 ∧ Declared resolver.declaration? call.2 := by
  obtain ⟨graph, finished, _, hgraph, hcalls, hids⟩ := exists_graph_of_discover hdiscover
  rw [hcalls] at hcall
  obtain ⟨hcaller, hcallee, _⟩ := ((hgraph.isCallList hids).mem_iff call.1 call.2).mp hcall
  exact ⟨hids.declared _ hcaller, hids.declared _ hcallee⟩

theorem declared_of_discover {resolver : Resolver}
    (hdiscover : discover resolver markers root = .ok program) :
    Declared resolver.declaration? root := by
  obtain ⟨_, _, _, _, _, hids⟩ := exists_graph_of_discover hdiscover
  exact hids.declared root (List.mem_of_getLast? hids.last)

namespace Manifest

/-- An entry keeps the counts of compute functions, and those of others are zero. -/
theorem eq_of_ofRecord_eq {left right : FunctionRecord}
    (hleft : left.kind ≠ .compute → left.dispatch = {})
    (hright : right.kind ≠ .compute → right.dispatch = {})
    (hentry : FunctionEntry.ofRecord left = .ofRecord right) : left = right := by
  obtain ⟨howner, hname, hkind, hresult, hparameters, hcounts, hbody⟩ :=
    FunctionEntry.mk.inj hentry
  have hid : left.id = right.id := by
    calc
      left.id = ⟨left.id.owner, left.id.name⟩ := rfl
      _ = ⟨right.id.owner, right.id.name⟩ := by rw [howner, hname]
  have hdispatch : left.dispatch = right.dispatch := by
    by_cases hcompute : left.kind = .compute
    · rw [if_pos hcompute, if_pos (hkind ▸ hcompute)] at hcounts
      exact Option.some.inj hcounts
    · rw [hleft hcompute, hright (hkind ▸ hcompute)]
  calc
    left = ⟨left.id, left.result, left.parameters, left.kind, left.dispatch, left.body⟩ := rfl
    _ = ⟨right.id, right.result, right.parameters, right.kind, right.dispatch, right.body⟩ := by
      rw [hid, hresult, hparameters, hkind, hdispatch, hbody]

theorem eq_of_ofCall_eq {left right : FunctionId × FunctionId}
    (hleft : ':' ∉ left.1.name.toList ∧ ':' ∉ left.2.name.toList)
    (hright : ':' ∉ right.1.name.toList ∧ ':' ∉ right.2.name.toList)
    (hentry : CallEntry.ofCall left = .ofCall right) : left = right := by
  obtain ⟨hcaller, hcallee⟩ := CallEntry.mk.inj hentry
  apply Prod.ext
  · exact FunctionId.eq_of_text_eq hleft.1 hright.1 hcaller
  · exact FunctionId.eq_of_text_eq hleft.2 hright.2 hcallee

/-- Two programs that were discovered in indices are the same if their entries are: an entry tells
the root, the kind, the records in their order and the calls. -/
theorem entry_determines_program (files files' : List SourceFile) (markers markers' : Markers)
    (root root' : FunctionId) (program program' : Program)
    (hdiscover : discover (SymbolIndex.ofFiles files).resolver markers root = .ok program)
    (hdiscover' : discover (SymbolIndex.ofFiles files').resolver markers' root' = .ok program')
    (hentry : ProgramEntry.ofProgram program = .ofProgram program') : program = program' := by
  obtain ⟨hroot, hkind, hfunctions, hcalls⟩ := ProgramEntry.mk.inj hentry
  obtain ⟨rfl, _, hrecords⟩ := describesKind_of_discover hdiscover
  obtain ⟨rfl, _, hrecords'⟩ := describesKind_of_discover hdiscover'
  have hroots : program.root = program'.root := by
    apply FunctionId.eq_of_text_eq _ _ hroot
    · exact SymbolIndex.colon_notMem_of_declared (declared_of_discover hdiscover)
    · exact SymbolIndex.colon_notMem_of_declared (declared_of_discover hdiscover')
  have hfunctions : program.functions = program'.functions := by
    apply eq_of_map_eq _ hfunctions
    intro left hleft right hright hrecord
    exact eq_of_ofRecord_eq (hrecords left hleft).dispatch (hrecords' right hright).dispatch hrecord
  have hcalls : program.calls = program'.calls := by
    apply eq_of_map_eq _ hcalls
    intro left hleft right hright hcall
    have hends := declared_of_mem_calls hdiscover hleft
    have hends' := declared_of_mem_calls hdiscover' hright
    apply eq_of_ofCall_eq _ _ hcall
    · exact ⟨SymbolIndex.colon_notMem_of_declared hends.1,
        SymbolIndex.colon_notMem_of_declared hends.2⟩
    · exact ⟨SymbolIndex.colon_notMem_of_declared hends'.1,
        SymbolIndex.colon_notMem_of_declared hends'.2⟩
  calc
    program = ⟨program.root, program.kind, program.functions, program.calls⟩ := rfl
    _ = ⟨program'.root, program'.kind, program'.functions, program'.calls⟩ := by
      rw [hroots, hkind, hfunctions, hcalls]

/-- A compute function and the function that it calls. -/
def tiles : List SourceFile :=
  [⟨"shaders", "shaders.rs",
    "#[compute_shader(8, 4, 1)] fn main(id: u32) \x7b step(id) \x7d fn step(id: u32) \x7b\x7d"⟩]

/-- The same functions in another file, on lines of their own and under another marker. -/
def tilesApart : List SourceFile :=
  [⟨"shaders", "tiles.rs",
    "#[tiles(8, 4, 1)]\nfn main(id: u32) \x7b\n  step(id)\n\x7d\nfn step(id: u32) \x7b \x7d"⟩]

/-- The program of both. -/
def tilesProgram : Program where
  root := ⟨"shaders", "main"⟩
  kind := .compute
  functions := [
    ⟨⟨"shaders", "step"⟩, "void", [⟨"id", "u32"⟩], .normal, {}, "\x7b \x7d"⟩,
    ⟨⟨"shaders", "main"⟩, "void", [⟨"id", "u32"⟩], .compute, ⟨8, 4, 1⟩, "\x7b step (id) \x7d"⟩]
  calls := [(⟨"shaders", "main"⟩, ⟨"shaders", "step"⟩)]

theorem tilesProgram_determined :
    discover (SymbolIndex.ofFiles tiles).resolver {} ⟨"shaders", "main"⟩ = .ok tilesProgram ∧
      discover (SymbolIndex.ofFiles tilesApart).resolver ⟨"vertex", "fragment", "tiles"⟩
        ⟨"shaders", "main"⟩ = .ok tilesProgram ∧
      tilesProgram = tilesProgram := by
  have hdiscover : discover (SymbolIndex.ofFiles tiles).resolver {} ⟨"shaders", "main"⟩ =
      .ok tilesProgram := by
    decide +kernel
  have hdiscover' : discover (SymbolIndex.ofFiles tilesApart).resolver
      ⟨"vertex", "fragment", "tiles"⟩ ⟨"shaders", "main"⟩ = .ok tilesProgram := by
    decide +kernel
  exact ⟨hdiscover, hdiscover', entry_determines_program tiles tilesApart {} _ _ _ _ _ hdiscover
    hdiscover' rfl⟩

end Manifest

end ShaderCalls
