import ShaderCalls.Proofs.Discovery.CallEdges

/-!
# The records of a discovered program

Every record is extracted from the declaration of its function.  The last one belongs to the root,
and the kind of a program is the kind of its root.
-/

namespace ShaderCalls

variable {resolver : Resolver} {markers : Markers} {root : FunctionId} {program : Program}

namespace Declaration

variable {declaration : Declaration}

/-- A record has the identity and the kind of its function, and counts for a compute function
alone. -/
theorem of_extract {id : FunctionId} {record : FunctionRecord}
    (hextract : declaration.extract markers id = .ok record) :
    record.id = id ∧ record.kind = (declaration.classify markers).1 ∧
      (record.kind ≠ .compute → record.dispatch = {}) := by
  cases hmarker : (declaration.classify markers).2 with
  | none =>
      simp only [extract, hmarker] at hextract
      cases hextract
      exact ⟨rfl, rfl, fun _ => rfl⟩
  | some marker =>
      simp only [extract, hmarker] at hextract
      cases hdispatch : Dispatch.ofMarker id marker with
      | error error =>
          rw [hdispatch] at hextract
          cases hextract
      | ok dispatch =>
          rw [hdispatch] at hextract
          cases hextract
          refine ⟨rfl, rfl, fun hkind => ?_⟩
          rw [classify_none hkind] at hmarker
          contradiction

end Declaration

/-- Every record of a list of functions is extracted from a declaration. -/
theorem extracted_of_extractRecords {ids : List FunctionId} {records : List FunctionRecord}
    (hrecords : extractRecords resolver markers ids = .ok records) :
    ∀ record ∈ records, ∃ id declaration, resolver.declaration? id = some declaration ∧
      declaration.extract markers id = .ok record := by
  intro record hrecord
  obtain ⟨⟨id, declaration⟩, hmem, hextract⟩ := exists_of_mem_mapM hrecords hrecord
  exact ⟨id, declaration, (mem_declarationsOf.mp hmem).2, hextract⟩

/-- A record tells the kind of its function, and has counts for a compute function alone. -/
structure DescribesKind (declaration? : FunctionId → Option Declaration) (markers : Markers)
    (record : FunctionRecord) : Prop where
  kind : (declaration? record.id).map (fun declaration => (declaration.classify markers).1) =
    some record.kind
  dispatch : record.kind ≠ .compute → record.dispatch = {}

theorem describesKind_of_discover (hdiscover : discover resolver markers root = .ok program) :
    program.root = root ∧
      program.kind = (program.functions.getLast?.map (·.kind)).getD .normal ∧
      ∀ record ∈ program.functions, DescribesKind resolver.declaration? markers record := by
  cases hbuild : Builder.build resolver root with
  | error error =>
      rw [discover, hbuild] at hdiscover
      contradiction
  | ok graph =>
      obtain ⟨ids, _, hprogram⟩ := discover_of_build markers hbuild
      rw [hdiscover] at hprogram
      cases hrecords : extractRecords resolver markers ids with
      | error error => simp [hrecords, Except.map] at hprogram
      | ok records =>
          rw [hrecords] at hprogram
          cases hprogram
          refine ⟨rfl, rfl, fun record hrecord => ?_⟩
          obtain ⟨id, declaration, hdeclaration, hextract⟩ :=
            extracted_of_extractRecords hrecords record hrecord
          obtain ⟨rfl, hkind, hdispatch⟩ := Declaration.of_extract hextract
          exact ⟨by rw [hdeclaration, Option.map_some, hkind], hdispatch⟩

/-- The last record of a discovered program is that of the root, and its kind is the program's. -/
theorem getLast?_of_discover (hdiscover : discover resolver markers root = .ok program) :
    ∃ record, program.functions.getLast? = some record ∧ record.id = root ∧
      program.kind = record.kind ∧
      (resolver.declaration? root).map (fun declaration => (declaration.classify markers).1) =
        some record.kind := by
  obtain ⟨_, _, _, _, _, hids⟩ := exists_graph_of_discover hdiscover
  have hlast := hids.last
  obtain ⟨_, hkind, hrecords⟩ := describesKind_of_discover hdiscover
  rw [Program.order, List.getLast?_map, Option.map_eq_some_iff] at hlast
  obtain ⟨record, hrecord, rfl⟩ := hlast
  refine ⟨record, hrecord, rfl, ?_, (hrecords record (List.mem_of_getLast? hrecord)).kind⟩
  rw [hkind, hrecord]
  rfl

end ShaderCalls
