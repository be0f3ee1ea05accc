import ShaderCalls.Proofs.Discovery.Counts
import ShaderCalls.Proofs.Discovery.Records
import ShaderCalls.Proofs.Ordered

/-!
# Entry points among candidates

The entry points are the candidates that are declared and carry a marker, as often as they are
listed, in the order of their identities.  Their kinds are those of the programs that discovery
gives for them; a program of any other candidate is normal.
-/

namespace ShaderCalls

variable {resolver : Resolver} {markers : Markers}

/-- Whether a function carries a marker of any kind. -/
def Declaration.isMarked (markers : Markers) (declaration : Declaration) : Bool :=
  [markers.vertex, markers.fragment, markers.compute].any fun name =>
    declaration.attributes.any (·.name == name)

/-- Whether a function is declared and carries a marker. -/
def Resolver.isMarked (resolver : Resolver) (markers : Markers) (id : FunctionId) : Bool :=
  (resolver.declaration? id).any (·.isMarked markers)

theorem Declaration.isEntryPoint_classify (declaration : Declaration) :
    (declaration.classify markers).1.isEntryPoint = declaration.isMarked markers := by
  have hany : ∀ name, declaration.attributes.any (·.name == name) =
      decide (name ∈ declaration.attributes.map (·.name)) := by
    intro name
    rw [Bool.eq_iff_iff]
    simp
  simp only [isMarked, List.any_cons, List.any_nil, hany, classify_fst, Markers.kindAmong]
  split
  · next hvertex => simp [hvertex, Kind.isEntryPoint]
  split
  · next hfragment => simp [hfragment, Kind.isEntryPoint]
  split
  · next hcompute => simp [hcompute, Kind.isEntryPoint]
  · next hvertex hfragment hcompute => simp [hvertex, hfragment, hcompute, Kind.isEntryPoint]

/-! ## One candidate -/

theorem entryPoint?_of_none {id : FunctionId} (hnone : resolver.declaration? id = none) :
    entryPoint? resolver markers id = none := by
  rw [entryPoint?, hnone]
  rfl

theorem entryPoint?_of_some {id : FunctionId} {declaration : Declaration}
    (hsome : resolver.declaration? id = some declaration) :
    entryPoint? resolver markers id =
      if declaration.isMarked markers then some ⟨id, (declaration.classify markers).1⟩
      else none := by
  rw [entryPoint?, hsome, ← Declaration.isEntryPoint_classify]
  rfl

theorem map_id_entryPoint? (resolver : Resolver) (markers : Markers) :
    (fun id => (entryPoint? resolver markers id).map (·.id)) =
      Option.guard (resolver.isMarked markers) := by
  funext id
  cases hdeclaration : resolver.declaration? id with
  | none => simp [entryPoint?_of_none hdeclaration, Option.guard, Resolver.isMarked, hdeclaration]
  | some declaration =>
      rw [entryPoint?_of_some hdeclaration]
      by_cases hmarked : declaration.isMarked markers <;>
        simp [hmarked, Option.guard, Resolver.isMarked, hdeclaration]

/-- An entry point has the kind of its declaration. -/
theorem kind_of_entryPoint? {id : FunctionId} {entry : EntryPoint}
    (hentry : entryPoint? resolver markers id = some entry) :
    entry.id = id ∧ (resolver.declaration? id).map (fun declaration =>
      (declaration.classify markers).1) = some entry.kind := by
  cases hdeclaration : resolver.declaration? id with
  | none =>
      rw [entryPoint?_of_none hdeclaration] at hentry
      contradiction
  | some declaration =>
      rw [entryPoint?_of_some hdeclaration] at hentry
      by_cases hmarked : declaration.isMarked markers
      · rw [if_pos hmarked] at hentry
        cases hentry
        exact ⟨rfl, rfl⟩
      · rw [if_neg hmarked] at hentry
        contradiction

/-! ## All candidates -/

/-- What the entry points of a list of candidates are. -/
structure IsScan (resolver : Resolver) (markers : Markers) (candidates : List FunctionId)
    (entries : List EntryPoint) : Prop where
  /-- The marked candidates, each as often as it is listed. -/
  ids : (entries.map (·.id)).Perm (candidates.filter (resolver.isMarked markers))
  ascending : entries.Pairwise fun left right => (compare left.id right.id).isLE
  classified : ∀ entry ∈ entries, (resolver.declaration? entry.id).map (fun declaration =>
    (declaration.classify markers).1) = some entry.kind
  /-- The candidates may come in any order. -/
  reordered : ∀ permuted, candidates.Perm permuted →
    entryPoints resolver markers permuted = entries
  /-- Discovery agrees on the kind of an entry point. -/
  kind : ∀ entry ∈ entries, ∀ program, discover resolver markers entry.id = .ok program →
    program.kind = entry.kind ∧ program.functions.getLast?.map (·.kind) = some entry.kind
  /-- A declared candidate that is no entry point is normal. -/
  normal : ∀ id ∈ candidates, Declared resolver.declaration? id → id ∉ entries.map (·.id) →
    ∀ program, discover resolver markers id = .ok program → program.kind = .normal

theorem perm_entryPoints (resolver : Resolver) (markers : Markers)
    (candidates : List FunctionId) :
    ((entryPoints resolver markers candidates).map (·.id)).Perm
      (candidates.filter (resolver.isMarked markers)) := by
  have hids : (candidates.filterMap (entryPoint? resolver markers)).map (·.id) =
      candidates.filter (resolver.isMarked markers) := by
    rw [List.map_filterMap, map_id_entryPoint?, List.filterMap_eq_filter]
  rw [← hids]
  exact (List.mergeSort_perm ..).map _

theorem classified_entryPoints (candidates : List FunctionId) :
    ∀ entry ∈ entryPoints resolver markers candidates,
      (resolver.declaration? entry.id).map (fun declaration =>
        (declaration.classify markers).1) = some entry.kind := by
  intro entry hentry
  obtain ⟨id, _, hid⟩ := List.mem_filterMap.mp ((List.mergeSort_perm ..).mem_iff.mp hentry)
  obtain ⟨rfl, hkind⟩ := kind_of_entryPoint? hid
  exact hkind

theorem entryPoints_eq_of_perm {candidates permuted : List FunctionId}
    (hperm : candidates.Perm permuted) :
    entryPoints resolver markers candidates = entryPoints resolver markers permuted := by
  apply mergeSort_key_eq_of_perm EntryPoint.id
  · intro left hleft right hright hid
    obtain ⟨_, _, hleftId⟩ := List.mem_filterMap.mp hleft
    obtain ⟨_, _, hrightId⟩ := List.mem_filterMap.mp hright
    obtain ⟨rfl, _⟩ := kind_of_entryPoint? hleftId
    obtain ⟨rfl, _⟩ := kind_of_entryPoint? hrightId
    rw [hid] at hleftId
    exact Option.some.inj (hleftId.symm.trans hrightId)
  · exact hperm.filterMap _

/-- The program of a function has the kind that its declaration is classified as. -/
theorem kind_of_discover {id : FunctionId} {program : Program} {kind : Kind}
    (hdiscover : discover resolver markers id = .ok program)
    (hkind : (resolver.declaration? id).map (fun declaration =>
      (declaration.classify markers).1) = some kind) :
    program.kind = kind ∧ program.functions.getLast?.map (·.kind) = some kind := by
  obtain ⟨record, hlast, _, hprogram, hrecord⟩ := getLast?_of_discover hdiscover
  have hsame : record.kind = kind := Option.some.inj (hrecord.symm.trans hkind)
  rw [hprogram, hlast, hsame]
  exact ⟨rfl, congrArg some hsame⟩

/-- Scanning for entry points and discovering them agree on what the entry points are. -/
theorem entryPoints_isScan (resolver : Resolver) (markers : Markers)
    (candidates : List FunctionId) :
    IsScan resolver markers candidates (entryPoints resolver markers candidates) where
  ids := perm_entryPoints resolver markers candidates
  ascending := pairwise_mergeSort_key EntryPoint.id _
  classified := classified_entryPoints candidates
  reordered := fun permuted hperm => (entryPoints_eq_of_perm hperm).symm
  kind := by
    intro entry hentry program hdiscover
    exact kind_of_discover hdiscover (classified_entryPoints candidates entry hentry)
  normal := by
    intro id hid hdeclared hother program hdiscover
    have hunmarked : resolver.isMarked markers id = false := by
      rw [(perm_entryPoints resolver markers candidates).mem_iff, List.mem_filter] at hother
      simpa [hid] using hother
    obtain ⟨declaration, hdeclaration⟩ := Option.isSome_iff_exists.mp hdeclared
    have hnormal : (declaration.classify markers).1 = .normal := by
      rw [Resolver.isMarked, hdeclaration, Option.any_some,
        ← Declaration.isEntryPoint_classify] at hunmarked
      simpa [Kind.isEntryPoint] using hunmarked
    exact (kind_of_discover hdiscover (by rw [hdeclaration, Option.map_some, hnormal])).1

end ShaderCalls
