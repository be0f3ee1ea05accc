import ShaderCalls.Discovery.Session
import ShaderCalls.Proofs.Discovery.Extraction
import ShaderCalls.Proofs.Graph.EmissionOrder

/-!
# The functions of a discovered program

Once the graph of a root is complete, discovery extracts the declarations of the functions in the
order of emission, and fails only where an extraction fails.
-/

namespace ShaderCalls

variable {resolver : Resolver} {root : FunctionId}

/-- The records of some functions, or the first error among them. -/
def extractRecords (resolver : Resolver) (markers : Markers) (ids : List FunctionId) :
    Except DiscoveryError (List FunctionRecord) :=
  (declarationsOf resolver.declaration? ids).mapM fun declared =>
    declared.2.extract markers declared.1

/-- Every record can be extracted and belongs to its function, or the error is about markers. -/
theorem extractRecords_cases (markers : Markers) {ids : List FunctionId}
    (hids : ∀ id ∈ ids, Declared resolver.declaration? id) :
    (∃ records, extractRecords resolver markers ids = .ok records ∧ records.map (·.id) = ids ∧
      ∀ id ∈ ids, ∀ declaration, resolver.declaration? id = some declaration →
        declaration.CountsParse markers) ∨
    (∃ error, extractRecords resolver markers ids = .error error ∧ error.IsMarker ∧
      ∃ id ∈ ids, ∃ declaration, resolver.declaration? id = some declaration ∧
        ¬ declaration.CountsParse markers) := by
  rcases mapM_cases (fun declared : FunctionId × Declaration =>
      declared.2.extract markers declared.1) (declarationsOf resolver.declaration? ids) with
    ⟨records, hok, hrecords⟩ |
      ⟨error, herror, before, ⟨id, declaration⟩, after, hsplit, _, hextract⟩
  · have hextracted : List.Forall₂ (fun (declared : FunctionId × Declaration) record =>
        declared.2.CountsParse markers ∧ declared.1 = record.id)
        (declarationsOf resolver.declaration? ids) records := by
      refine hrecords.imp fun declared record hextract => ?_
      rcases Declaration.extract_cases markers declared.1 declared.2 with
        ⟨other, hother, hid, hparse⟩ | ⟨error, herror, _⟩
      · cases hextract.symm.trans hother
        exact ⟨hparse, hid.symm⟩
      · simp [herror] at hextract
    obtain ⟨hparse, hkept⟩ := (List.forall₂_and_left _ _).mp hextracted
    have hsame : (declarationsOf resolver.declaration? ids).map (·.1) = records.map (·.id) := by
      rw [← List.forall₂_eq_eq_eq, List.forall₂_map_left_iff, List.forall₂_map_right_iff]
      exact hkept
    refine Or.inl ⟨records, hok, ?_, fun id hid declaration hdeclaration => ?_⟩
    · rw [← hsame, map_fst_declarationsOf hids]
    · exact hparse (id, declaration) (mem_declarationsOf.mpr ⟨hid, hdeclaration⟩)
  · have hmem : (id, declaration) ∈ declarationsOf resolver.declaration? ids := by simp [hsplit]
    obtain ⟨hid, hdeclaration⟩ := mem_declarationsOf.mp hmem
    rcases Declaration.extract_cases markers id declaration with
      ⟨record, hok, _⟩ | ⟨other, hother, hkind, hparse⟩
    · simp [hok] at hextract
    · cases hextract.symm.trans hother
      exact Or.inr ⟨error, herror, hkind, id, hid, declaration, hdeclaration, hparse⟩

/-- Discovery extracts the records of the functions of a graph that could be built. -/
theorem discover_of_build (markers : Markers) {graph : CallGraph Declaration}
    (hbuild : Builder.build resolver root = .ok graph) :
    ∃ ids, IsEmissionOrder resolver.declaration? root ids ∧
      discover resolver markers root = (extractRecords resolver markers ids).map fun functions =>
        { root
          kind := (functions.getLast?.map (·.kind)).getD .normal
          functions
          calls := graph.edges } := by
  obtain ⟨finished, hgraph⟩ := Builder.isComplete_of_build hbuild
  obtain ⟨ids, hids, hwalk⟩ := hgraph.exists_emissionOrder
  refine ⟨ids, hids, ?_⟩
  have hextract : graph.postOrder (Declaration.extract markers) =
      extractRecords resolver markers ids := hwalk _
  rw [discover, hbuild]
  change (graph.postOrder (Declaration.extract markers)).bind _ = _
  rw [hextract]
  cases extractRecords resolver markers ids <;> rfl

/-- A discovered program consists of the functions that its root reaches, each once and behind
everything that it calls, the root last. -/
theorem discover_isEmissionOrder (resolver : Resolver) (markers : Markers) (root : FunctionId)
    (program : Program) (hdiscover : discover resolver markers root = .ok program) :
    IsEmissionOrder resolver.declaration? root program.order := by
  cases hbuild : Builder.build resolver root with
  | error error =>
      rw [discover, hbuild] at hdiscover
      contradiction
  | ok graph =>
      obtain ⟨ids, hids, hprogram⟩ := discover_of_build markers hbuild
      rw [hdiscover] at hprogram
      rcases extractRecords_cases markers hids.declared with
        ⟨records, hok, hsame, _⟩ | ⟨error, herror, _⟩
      · rw [hok] at hprogram
        have horder : program.order = ids := by
          rw [Except.ok.inj hprogram]
          exact hsame
        exact horder ▸ hids
      · simp [herror, Except.map] at hprogram

/-- Two functions that share a callee, where one of them calls it twice and the root calls an
intrinsic. -/
def sharedCallee : Resolver :=
  .ofList [
    (⟨"app", "main"⟩, .calling [⟨"app", "left"⟩, ⟨"std", "sin"⟩, ⟨"app", "right"⟩]),
    (⟨"app", "left"⟩, .calling [⟨"app", "shared"⟩, ⟨"app", "shared"⟩]),
    (⟨"app", "right"⟩, .calling [⟨"app", "left"⟩, ⟨"app", "shared"⟩]),
    (⟨"app", "shared"⟩, .calling []),
    (⟨"app", "unused"⟩, .calling [⟨"app", "main"⟩])]

theorem sharedCallee_isEmissionOrder :
    IsEmissionOrder sharedCallee.declaration? ⟨"app", "main"⟩
      [⟨"app", "shared"⟩, ⟨"app", "left"⟩, ⟨"app", "right"⟩, ⟨"app", "main"⟩] :=
  discover_isEmissionOrder sharedCallee {} ⟨"app", "main"⟩ _ rfl

end ShaderCalls
