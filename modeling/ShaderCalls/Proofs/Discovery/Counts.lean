import ShaderCalls.Proofs.Discovery.Extraction
import ShaderCalls.Proofs.Text.Blanks
import ShaderCalls.Proofs.Text.Numerals

/-!
# What an extraction gives

The kind of a function depends on the names of its attributes alone.  A compute function takes its
counts from the first attribute that is named as the compute marker; the errors of that attribute
are its number of arguments and the first of three arguments that is no count, in this order.
Every other function has no counts, whatever its attributes are.
-/

namespace ShaderCalls

/-- The kind of a function whose attributes have these names. -/
def Markers.kindAmong (markers : Markers) (names : List String) : Kind :=
  if markers.vertex ∈ names then .vertex
  else if markers.fragment ∈ names then .fragment
  else if markers.compute ∈ names then .compute
  else .normal

namespace Dispatch

/-- An argument stands for a count: without the blanks around it, it is a numeral. -/
def IsCount (argument : String) (count : UInt32) : Prop :=
  ∃ core, Text.Trims argument.toList core ∧ Text.IsNumeral core count.toNat

/-- What the arguments of a marker give. -/
inductive Reads (function : FunctionId) (marker : Attribute) : Except DiscoveryError Dispatch → Prop
  | few : marker.arguments.length < 3 →
      Reads function marker
        (.error (.attributeArity function marker.name 3 marker.arguments.length))
  /-- The first of three arguments that is no count, as it is written. -/
  | noCount {position : Nat} {argument : String} : 3 ≤ marker.arguments.length → position < 3 →
      marker.arguments[position]? = some argument →
      (∀ earlier < position, ∀ argument ∈ marker.arguments[earlier]?,
        ∃ count, IsCount argument count) →
      (∀ count, ¬ IsCount argument count) →
      Reads function marker (.error (.attributeFormat function marker.name position argument))
  | counts {x y z : String} {rest : List String} {countX countY countZ : UInt32} :
      marker.arguments = x :: y :: z :: rest →
      IsCount x countX → IsCount y countY → IsCount z countZ →
      Reads function marker (.ok ⟨countX, countY, countZ⟩)

end Dispatch

/-- The record of a function of some kind with some counts. -/
def Declaration.recordWith (declaration : Declaration) (id : FunctionId) (kind : Kind)
    (dispatch : Dispatch) : FunctionRecord where
  id
  result := declaration.result.getD voidType
  parameters := declaration.parameters.map fun (name, type) => ⟨name, type⟩
  kind
  dispatch
  body := declaration.body

/-- What the extraction of a function gives. -/
inductive Declaration.Extracts (markers : Markers) (id : FunctionId) (declaration : Declaration) :
    Except DiscoveryError FunctionRecord → Prop
  | other {kind : Kind} : markers.kindAmong (declaration.attributes.map (·.name)) = kind →
      kind ≠ .compute →
      Extracts markers id declaration (.ok (declaration.recordWith id kind ⟨0, 0, 0⟩))
  | compute {marker : Attribute} {counts : Except DiscoveryError Dispatch} :
      markers.kindAmong (declaration.attributes.map (·.name)) = .compute →
      declaration.attributes.find? (·.name = markers.compute) = some marker →
      Dispatch.Reads id marker counts →
      Extracts markers id declaration (counts.map (declaration.recordWith id .compute))

/-! ## The counts of a marker -/

namespace Dispatch

variable {function : FunctionId} {marker : Attribute}

theorem count?_eq_some_iff {argument : String} {count : UInt32} :
    count? argument = some count ↔ IsCount argument count := by
  have hword : count? argument = some count ↔
      Text.IsNumeral (Text.trim argument).toList count.toNat :=
    Text.word32?_eq_some_iff
  rw [hword]
  constructor
  · exact fun hnumeral => ⟨_, Text.trims_trim argument, hnumeral⟩
  · rintro ⟨core, htrims, hnumeral⟩
    have hcore : Text.trim argument = String.ofList core :=
      Text.trim_eq_iff.mpr (by rwa [String.toList_ofList])
    rwa [hcore, String.toList_ofList]

theorem count?_eq_none_iff {argument : String} :
    count? argument = none ↔ ∀ count, ¬ IsCount argument count := by
  simp only [← count?_eq_some_iff, Option.eq_none_iff_forall_ne_some, ne_eq]

theorem countAt_of_isCount {position : Nat} {argument : String} {count : UInt32}
    (hcount : IsCount argument count) :
    countAt function marker position argument = .ok count := by
  delta countAt
  rw [count?_eq_some_iff.mpr hcount]

theorem countAt_of_not_isCount {position : Nat} {argument : String}
    (hcount : ∀ count, ¬ IsCount argument count) :
    countAt function marker position argument =
      .error (.attributeFormat function marker.name position argument) := by
  delta countAt
  rw [count?_eq_none_iff.mpr hcount]

/-- With three arguments the counts are taken one after the other. -/
theorem ofMarker_of_enough {x y z : String} {rest : List String}
    (harguments : marker.arguments = x :: y :: z :: rest) :
    ofMarker function marker =
      (countAt function marker 0 x).bind fun countX =>
        (countAt function marker 1 y).bind fun countY =>
          (countAt function marker 2 z).bind fun countZ => .ok ⟨countX, countY, countZ⟩ := by
  simp only [ofMarker, harguments]
  rfl

/-- The result is the one that the arguments give. -/
theorem Reads.ofMarker_eq {result : Except DiscoveryError Dispatch}
    (hreads : Reads function marker result) : ofMarker function marker = result := by
  cases hreads with
  | few hfew => exact ofMarker_of_few hfew
  | counts harguments hx hy hz =>
      rw [ofMarker_of_enough harguments, countAt_of_isCount hx, Except.bind, countAt_of_isCount hy,
        Except.bind, countAt_of_isCount hz]
      rfl
  | @noCount position argument henough hposition hargument hearlier hbad =>
      obtain ⟨x, y, z, rest, harguments⟩ := exists_three henough
      rw [harguments] at hargument hearlier
      rw [ofMarker_of_enough harguments]
      -- The arguments before the position are counts, so the one at the position decides.
      match position with
      | 0 =>
          cases hargument
          rw [countAt_of_not_isCount hbad]
          rfl
      | 1 =>
          cases hargument
          obtain ⟨_, hx⟩ := hearlier 0 (by decide) x rfl
          rw [countAt_of_isCount hx, Except.bind, countAt_of_not_isCount hbad]
          rfl
      | 2 =>
          cases hargument
          obtain ⟨_, hx⟩ := hearlier 0 (by decide) x rfl
          obtain ⟨_, hy⟩ := hearlier 1 (by decide) y rfl
          rw [countAt_of_isCount hx, Except.bind, countAt_of_isCount hy, Except.bind,
            countAt_of_not_isCount hbad]
          rfl

/-- The arguments of a marker always give something. -/
theorem exists_reads (function : FunctionId) (marker : Attribute) :
    ∃ result, Reads function marker result := by
  by_cases hfew : marker.arguments.length < 3
  · exact ⟨_, .few hfew⟩
  have henough : 3 ≤ marker.arguments.length := Nat.le_of_not_lt hfew
  obtain ⟨x, y, z, rest, harguments⟩ := exists_three henough
  have hat : ∀ position : Nat, marker.arguments[position]? =
      (x :: y :: z :: rest)[position]? := by
    rw [harguments]
    exact fun _ => rfl
  by_cases hbadX : ∀ count, ¬ IsCount x count
  · exact ⟨_, .noCount henough (by decide) (hat 0) (by simp) hbadX⟩
  have hx := Classical.not_forall_not.mp hbadX
  by_cases hbadY : ∀ count, ¬ IsCount y count
  · refine ⟨_, .noCount henough (by decide) (hat 1) ?_ hbadY⟩
    intro earlier hearlier argument hargument
    obtain rfl : earlier = 0 := by omega
    cases (hat 0).symm.trans hargument
    exact hx
  have hy := Classical.not_forall_not.mp hbadY
  by_cases hbadZ : ∀ count, ¬ IsCount z count
  · refine ⟨_, .noCount henough (by decide) (hat 2) ?_ hbadZ⟩
    intro earlier hearlier argument hargument
    obtain rfl | rfl : earlier = 0 ∨ earlier = 1 := by omega
    · cases (hat 0).symm.trans hargument
      exact hx
    · cases (hat 1).symm.trans hargument
      exact hy
  obtain ⟨_, hz⟩ := Classical.not_forall_not.mp hbadZ
  obtain ⟨⟨_, hx⟩, ⟨_, hy⟩⟩ := And.intro hx hy
  exact ⟨_, .counts harguments hx hy hz⟩

end Dispatch

/-! ## The record of a function -/

namespace Declaration

variable {markers : Markers} {declaration : Declaration}

theorem attributesNamed_nonempty_iff (declaration : Declaration) (name : String) :
    (!(declaration.attributesNamed name).isEmpty) = true ↔
      name ∈ declaration.attributes.map (·.name) := by
  simp [attributesNamed]

theorem head?_attributesNamed (declaration : Declaration) (name : String) :
    (declaration.attributesNamed name).head? = declaration.attributes.find? (·.name = name) := by
  rw [attributesNamed, List.head?_filter]
  rfl

theorem classify_fst (markers : Markers) (declaration : Declaration) :
    (declaration.classify markers).1 =
      markers.kindAmong (declaration.attributes.map (·.name)) := by
  simp only [classify, Markers.kindAmong, attributesNamed_nonempty_iff]
  split
  · rfl
  split
  · rfl
  · have hcompute := attributesNamed_nonempty_iff declaration markers.compute
    cases hnamed : declaration.attributesNamed markers.compute with
    | nil =>
        rw [hnamed] at hcompute
        rw [if_neg fun hmem => by simpa using hcompute.mpr hmem]
    | cons marker others =>
        rw [hnamed] at hcompute
        rw [if_pos (hcompute.mp rfl)]

theorem mem_of_kindAmong_eq_compute {names : List String}
    (hkind : markers.kindAmong names = .compute) : markers.compute ∈ names := by
  unfold Markers.kindAmong at hkind
  split at hkind
  · contradiction
  split at hkind
  · contradiction
  split at hkind
  · assumption
  · contradiction

theorem exists_find?_of_mem {name : String} (hname : name ∈ declaration.attributes.map (·.name)) :
    ∃ marker, declaration.attributes.find? (·.name = name) = some marker := by
  obtain ⟨marker, hmarker, rfl⟩ := List.mem_map.mp hname
  exact Option.isSome_iff_exists.mp (List.find?_isSome.mpr ⟨marker, hmarker, by simp⟩)

/-- The marker of a compute function is its first compute marker. -/
theorem classify_snd_of_compute (hkind : (declaration.classify markers).1 = .compute) :
    (declaration.classify markers).2 =
      declaration.attributes.find? (·.name = markers.compute) := by
  revert hkind
  rw [← head?_attributesNamed]
  unfold classify
  split
  · exact fun hkind => by contradiction
  split
  · exact fun hkind => by contradiction
  split
  · next hnamed => exact fun _ => by rw [hnamed, List.head?_cons]
  · exact fun hkind => by contradiction

theorem extract_of_none {id : FunctionId} (hmarker : (declaration.classify markers).2 = none) :
    declaration.extract markers id =
      .ok (declaration.recordWith id (declaration.classify markers).1 {}) := by
  simp only [extract, hmarker]
  rfl

theorem extract_of_some {id : FunctionId} {marker : Attribute}
    (hmarker : (declaration.classify markers).2 = some marker) :
    declaration.extract markers id = (Dispatch.ofMarker id marker).map
      (declaration.recordWith id (declaration.classify markers).1) := by
  simp only [extract, hmarker]
  cases Dispatch.ofMarker id marker <;> rfl

/-- The result is the one that the attributes give. -/
theorem Extracts.extract_eq {id : FunctionId} {result : Except DiscoveryError FunctionRecord}
    (hextracts : declaration.Extracts markers id result) :
    declaration.extract markers id = result := by
  cases hextracts with
  | other hkind hother =>
      rw [← classify_fst] at hkind
      rw [extract_of_none (classify_none (hkind ▸ hother)), hkind]
  | compute hkind hmarker hreads =>
      rw [← classify_fst] at hkind
      rw [← classify_snd_of_compute hkind] at hmarker
      rw [extract_of_some hmarker, hkind, hreads.ofMarker_eq]

/-- The attributes of a function always give something. -/
theorem exists_extracts (markers : Markers) (id : FunctionId) (declaration : Declaration) :
    ∃ result, declaration.Extracts markers id result := by
  by_cases hkind : markers.kindAmong (declaration.attributes.map (·.name)) = .compute
  · obtain ⟨marker, hmarker⟩ := exists_find?_of_mem (mem_of_kindAmong_eq_compute hkind)
    obtain ⟨_, hreads⟩ := Dispatch.exists_reads id marker
    exact ⟨_, .compute hkind hmarker hreads⟩
  · exact ⟨_, .other rfl hkind⟩

/-- The kind of a function is told by the names of its attributes, and the extraction gives what
its attributes say. -/
theorem extract_eq_iff (markers : Markers) (id : FunctionId) (declaration : Declaration) :
    (declaration.classify markers).1 =
        markers.kindAmong (declaration.attributes.map (·.name)) ∧
      ∀ result, declaration.extract markers id = result ↔
        declaration.Extracts markers id result := by
  refine ⟨classify_fst markers declaration, fun result => ⟨?_, Extracts.extract_eq⟩⟩
  rintro rfl
  obtain ⟨result, hextracts⟩ := exists_extracts markers id declaration
  exact hextracts.extract_eq ▸ hextracts

end Declaration

end ShaderCalls
