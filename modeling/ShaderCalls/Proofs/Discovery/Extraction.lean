import ShaderCalls.Discovery.Extraction

/-!
# When an extraction succeeds

Only a compute function can fail to be extracted, and only by the arguments of its first compute
marker: there must be three of them at least, and the first three must be counts.
-/

namespace ShaderCalls

/-- The first three arguments of the marker are counts. -/
def Attribute.HasCounts (marker : Attribute) : Prop :=
  ∃ x y z rest, marker.arguments = x :: y :: z :: rest ∧ (Dispatch.count? x).isSome ∧
    (Dispatch.count? y).isSome ∧ (Dispatch.count? z).isSome

/-- A function that carries neither a vertex nor a fragment marker takes counts from its first
compute marker, if it has one. -/
def Declaration.CountsParse (declaration : Declaration) (markers : Markers) : Prop :=
  declaration.attributesNamed markers.vertex = [] →
    declaration.attributesNamed markers.fragment = [] →
      ∀ marker ∈ (declaration.attributesNamed markers.compute).head?, marker.HasCounts

/-- The error is about the arguments of a marker. -/
def DiscoveryError.IsMarker : DiscoveryError → Prop
  | .attributeArity .. => True
  | .attributeFormat .. => True
  | _ => False

namespace Dispatch

variable {function : FunctionId} {marker : Attribute}

theorem countAt_cases (function : FunctionId) (marker : Attribute) (position : Nat)
    (argument : String) :
    (∃ count, countAt function marker position argument = .ok count ∧
      (count? argument).isSome) ∨
    (countAt function marker position argument =
        .error (.attributeFormat function marker.name position argument) ∧
      ¬ (count? argument).isSome) := by
  -- An equation lemma of the definition would evaluate the count, so it is opened by `delta`.
  delta countAt
  cases count? argument with
  | some count => exact Or.inl ⟨count, rfl, rfl⟩
  | none => exact Or.inr ⟨rfl, by simp⟩

theorem hasCounts_iff {x y z : String} {rest : List String}
    (harguments : marker.arguments = x :: y :: z :: rest) :
    marker.HasCounts ↔ (count? x).isSome ∧ (count? y).isSome ∧ (count? z).isSome := by
  constructor
  · rintro ⟨_, _, _, _, hsame, hcounts⟩
    cases harguments.symm.trans hsame
    exact hcounts
  · exact fun hcounts => ⟨x, y, z, rest, harguments, hcounts⟩

theorem ofMarker_of_few (hfew : marker.arguments.length < arity) :
    ofMarker function marker =
      .error (.attributeArity function marker.name arity marker.arguments.length) := by
  unfold ofMarker
  split
  · next harguments =>
      simp only [harguments, arity, List.length_cons] at hfew
      omega
  · rfl

theorem not_hasCounts_of_few (hfew : marker.arguments.length < arity) : ¬ marker.HasCounts := by
  rintro ⟨x, y, z, rest, harguments, _⟩
  simp only [harguments, arity, List.length_cons] at hfew
  omega

theorem exists_three {arguments : List String} (henough : arity ≤ arguments.length) :
    ∃ x y z rest, arguments = x :: y :: z :: rest := by
  match arguments with
  | [] | [_] | [_, _] => simp [arity] at henough
  | x :: y :: z :: rest => exact ⟨x, y, z, rest, rfl⟩

/-- The counts of a marker are taken one after the other, and the first that fails is the error. -/
theorem ofMarker_cases (function : FunctionId) (marker : Attribute) :
    (∃ dispatch, ofMarker function marker = .ok dispatch ∧ marker.HasCounts) ∨
    (∃ error, ofMarker function marker = .error error ∧ error.IsMarker ∧
      ¬ marker.HasCounts) := by
  by_cases hfew : marker.arguments.length < arity
  · exact Or.inr ⟨_, ofMarker_of_few hfew, trivial, not_hasCounts_of_few hfew⟩
  obtain ⟨x, y, z, rest, harguments⟩ := exists_three (Nat.le_of_not_lt hfew)
  rw [hasCounts_iff harguments]
  simp only [ofMarker, harguments, bind, Except.bind]
  rcases countAt_cases function marker 0 x with ⟨countX, hx, hsomeX⟩ | ⟨herror, hnone⟩
  · rcases countAt_cases function marker 1 y with ⟨countY, hy, hsomeY⟩ | ⟨herror, hnone⟩
    · rcases countAt_cases function marker 2 z with ⟨countZ, hz, hsomeZ⟩ | ⟨herror, hnone⟩
      · exact Or.inl ⟨⟨countX, countY, countZ⟩, by simp [hx, hy, hz], hsomeX, hsomeY, hsomeZ⟩
      · exact Or.inr ⟨.attributeFormat function marker.name 2 z, by simp [hx, hy, herror],
          trivial, fun hcounts => hnone hcounts.2.2⟩
    · exact Or.inr ⟨.attributeFormat function marker.name 1 y, by simp [hx, herror],
        trivial, fun hcounts => hnone hcounts.2.1⟩
  · exact Or.inr ⟨.attributeFormat function marker.name 0 x, by simp [herror],
      trivial, fun hcounts => hnone hcounts.1⟩

end Dispatch

namespace Declaration

variable {markers : Markers} {declaration : Declaration}

/-- The marker of a classification is the first compute marker of a function that carries neither of
the other markers. -/
theorem mem_classify_iff (marker : Attribute) :
    marker ∈ (declaration.classify markers).2 ↔
      declaration.attributesNamed markers.vertex = [] ∧
        declaration.attributesNamed markers.fragment = [] ∧
          marker ∈ (declaration.attributesNamed markers.compute).head? := by
  unfold classify
  split
  · next hvertex => simp_all
  split
  · next hfragment => simp_all
  · cases hcompute : declaration.attributesNamed markers.compute <;> simp_all

theorem classify_none (hkind : (declaration.classify markers).1 ≠ .compute) :
    (declaration.classify markers).2 = none := by
  revert hkind
  unfold classify
  split
  · exact fun _ => rfl
  split
  · exact fun _ => rfl
  split
  · exact fun hkind => absurd rfl hkind
  · exact fun _ => rfl

theorem countsParse_iff :
    declaration.CountsParse markers ↔
      ∀ marker ∈ (declaration.classify markers).2, marker.HasCounts := by
  simp only [mem_classify_iff, CountsParse]
  constructor
  · exact fun hparse marker ⟨hvertex, hfragment, hmarker⟩ =>
      hparse hvertex hfragment marker hmarker
  · exact fun hparse hvertex hfragment marker hmarker =>
      hparse marker ⟨hvertex, hfragment, hmarker⟩

/-- An extraction keeps the identity; it fails exactly when the counts do not parse. -/
theorem extract_cases (markers : Markers) (id : FunctionId) (declaration : Declaration) :
    (∃ record, declaration.extract markers id = .ok record ∧ record.id = id ∧
      declaration.CountsParse markers) ∨
    (∃ error, declaration.extract markers id = .error error ∧ error.IsMarker ∧
      ¬ declaration.CountsParse markers) := by
  rw [countsParse_iff]
  cases hmarker : (declaration.classify markers).2 with
  | none => exact Or.inl ⟨_, by simp only [extract, hmarker]; rfl, rfl, by simp⟩
  | some marker =>
      rcases Dispatch.ofMarker_cases id marker with
        ⟨dispatch, hok, hcounts⟩ | ⟨error, herror, hkind, hcounts⟩
      · exact Or.inl ⟨_, by simp only [extract, hmarker, hok]; rfl, rfl, by simpa using hcounts⟩
      · exact Or.inr ⟨error, by simp only [extract, hmarker, herror]; rfl, hkind,
          by simpa using hcounts⟩

end Declaration

end ShaderCalls
