import Mathlib.Algebra.GroupWithZero.Nat
import Mathlib.Algebra.Order.BigOperators.Group.List
import Mathlib.Algebra.Order.Group.Nat
import Mathlib.Data.List.Nodup

/-!
# Lists

Facts about lists that the library does not have: what distinct elements sum up to, that erasing
duplicates leaves distinct elements, what a search by a key finds, when permuted lists or lists with
the same images are the same, where separators stand, how numbered parts stay in order, and what a
computation gives that goes through a list and may fail at each element.
-/

namespace ShaderCalls

variable {α β ε : Type}

/-- Distinct elements sum up to no more than any list that holds them all. -/
theorem sum_map_le_of_subset {elements all : List α} (hnodup : elements.Nodup)
    (hsubset : elements ⊆ all) (size : α → Nat) :
    (elements.map size).sum ≤ (all.map size).sum := by
  obtain ⟨permuted, hperm, hsublist⟩ := List.subperm_of_subset hnodup hsubset
  calc
    (elements.map size).sum = (permuted.map size).sum := (hperm.symm.map size).sum_nat
    _ ≤ (all.map size).sum := (hsublist.map size).sum_le_sum fun _ _ => Nat.zero_le _

theorem nodup_eraseDups [BEq α] [LawfulBEq α] : ∀ elements : List α, elements.eraseDups.Nodup
  | [] => List.nodup_nil
  | element :: rest => by
      rw [List.eraseDups_cons, List.nodup_cons]
      exact ⟨by simp, nodup_eraseDups _⟩
termination_by elements => elements.length
decreasing_by
  exact Nat.lt_succ_of_le (List.length_filter_le _ rest)

/-- Distinct elements are several exactly if two of them differ. -/
theorem one_lt_length_iff_of_nodup {elements : List α} (hnodup : elements.Nodup) :
    1 < elements.length ↔ ∃ left ∈ elements, ∃ right ∈ elements, left ≠ right := by
  rcases elements with _ | ⟨first, _ | ⟨second, rest⟩⟩
  · simp
  · simp
  · have hne : first ≠ second := by
      rintro rfl
      simp at hnodup
    exact iff_of_true (by simp) ⟨first, by simp, second, by simp, hne⟩

/-! ## Searches by key -/

/-- Where no two entries share a key, every entry is found under its own. -/
theorem lookup_eq_some_iff_mem [BEq α] [LawfulBEq α] {entries : List (α × β)}
    (hdistinct : (entries.map (·.1)).Nodup) {key : α} {value : β} :
    entries.lookup key = some value ↔ (key, value) ∈ entries := by
  rw [List.lookup_eq_some_iff]
  constructor
  · rintro ⟨before, after, rfl, _⟩
    simp
  · intro hmem
    obtain ⟨before, after, rfl⟩ := List.append_of_mem hmem
    refine ⟨before, after, rfl, fun entry hentry => ?_⟩
    rw [List.map_append, List.map_cons, List.nodup_middle, List.nodup_cons] at hdistinct
    have hkey : entry.1 ∈ before.map (·.1) := List.mem_map_of_mem hentry
    rw [bne_iff_ne]
    rintro rfl
    exact hdistinct.1 (List.mem_append_left _ hkey)

theorem find?_key_eq_some_iff [DecidableEq β] {key : α → β} {elements : List α}
    (hdistinct : (elements.map key).Nodup) {element : α} {value : β} :
    elements.find? (key · = value) = some element ↔ element ∈ elements ∧ key element = value := by
  have hkey : ∀ {value found}, elements.find? (key · = value) = some found → key found = value := by
    intro value found hfound
    simpa using List.find?_some hfound
  constructor
  · intro hfound
    exact ⟨List.mem_of_find?_eq_some hfound, hkey hfound⟩
  · rintro ⟨hmem, rfl⟩
    cases hfind : elements.find? (key · = key element) with
    | none =>
        rw [List.find?_eq_none] at hfind
        exact absurd (decide_eq_true rfl) (hfind element hmem)
    | some found =>
        have hfound := List.mem_of_find?_eq_some hfind
        exact congrArg some (List.inj_on_of_nodup_map hdistinct hfound hmem (hkey hfind))

/-! ## Permuted lists -/

/-- Permuted lists of at most one element are the same. -/
theorem eq_or_exists_of_perm {elements permuted : List α} (hperm : elements.Perm permuted) :
    elements = permuted ∨
      (∃ first second rest, elements = first :: second :: rest) ∧
        ∃ first second rest, permuted = first :: second :: rest := by
  have hlength := hperm.length_eq
  match elements, permuted with
  | [], [] => exact Or.inl rfl
  | [element], [other] => exact Or.inl (by simpa using hperm)
  | first :: second :: rest, first' :: second' :: rest' =>
      exact Or.inr ⟨⟨first, second, rest, rfl⟩, first', second', rest', rfl⟩

/-! ## Joined lists -/

/-- The separator stands behind every part but the last. -/
theorem intercalate_concat (separator : List α) (parts : List (List α)) (last : List α) :
    separator.intercalate (parts ++ [last]) = parts.flatMap (· ++ separator) ++ last := by
  induction parts with
  | nil => simp
  | cons part parts ih =>
      rw [List.cons_append, List.intercalate_cons_of_ne_nil (by simp), ih, List.flatMap_cons]
      simp

/-! ## Lists with the same images -/

/-- Lists are the same if a function that tells their elements apart has the same images on both. -/
theorem eq_of_map_eq {image : α → β} {left right : List α}
    (hinj : ∀ first ∈ left, ∀ second ∈ right, image first = image second → first = second)
    (hmap : left.map image = right.map image) : left = right := by
  induction left generalizing right with
  | nil => exact (List.map_eq_nil_iff.mp hmap.symm).symm
  | cons first rest ih =>
      obtain ⟨second, others, rfl, hsecond, hothers⟩ := List.map_eq_cons_iff.mp hmap.symm
      have hfirst : first = second :=
        hinj first List.mem_cons_self second List.mem_cons_self hsecond.symm
      have hrest : rest = others := by
        apply ih _ hothers.symm
        intro element helement other hother
        exact hinj element (.tail _ helement) other (.tail _ hother)
      rw [hfirst, hrest]

/-- Two filters that keep the same elements give the same results exactly if they do for each
element. -/
theorem filterMap_eq_filterMap_iff {f g : α → Option β} {elements : List α}
    (hsame : ∀ element ∈ elements, (f element).isSome = (g element).isSome) :
    elements.filterMap f = elements.filterMap g ↔ ∀ element ∈ elements, f element = g element := by
  induction elements with
  | nil => simp
  | cons element rest ih =>
      obtain ⟨hfirst, hrest⟩ := List.forall_mem_cons.mp hsame
      rw [List.forall_mem_cons, ← ih hrest]
      cases hf : f element <;> cases hg : g element <;> simp_all

/-! ## Related lists -/

/-- Every element is related to one of the other list. -/
theorem exists_mem_of_forall₂ {related : α → β → Prop} {left : List α} {right : List β}
    (hall : List.Forall₂ related left right) {element : α} (hmem : element ∈ left) :
    ∃ other ∈ right, related element other := by
  induction hall with
  | nil => contradiction
  | cons hfirst _ ih =>
      rcases List.mem_cons.mp hmem with rfl | hrest
      · exact ⟨_, List.mem_cons_self, hfirst⟩
      · obtain ⟨other, hother, hrelated⟩ := ih hrest
        exact ⟨other, List.mem_cons_of_mem _ hother, hrelated⟩

/-! ## Numbered parts -/

theorem getElem?_concat_eq_some_iff {elements : List α} {last element : α} {index : Nat} :
    (elements ++ [last])[index]? = some element ↔
      elements[index]? = some element ∨ (index = elements.length ∧ last = element) := by
  rcases Nat.lt_trichotomy index elements.length with hbefore | rfl | hbehind
  · rw [List.getElem?_append_left hbefore]
    simp [Nat.ne_of_lt hbefore]
  · simp
  · have hlast : (elements ++ [last])[index]? = none := by
      rw [List.getElem?_eq_none_iff, List.length_append]
      exact hbehind
    rw [hlast, List.getElem?_eq_none (Nat.le_of_lt hbehind)]
    simp [Nat.ne_of_gt hbehind]

/-- Places in one more part come after those in the parts before it. -/
theorem pairwise_append_numbered {before behind : List (List Nat × α)} {number : Nat}
    (hbefore : (before.map (·.1)).Pairwise (· < ·))
    (hbehind : (behind.map (·.1)).Pairwise (· < ·))
    (hlow : ∀ entry ∈ before, ∃ index rest, entry.1 = index :: rest ∧ index < number) :
    ((before ++ behind.map fun entry => (number :: entry.1, entry.2)).map (·.1)).Pairwise
      (· < ·) := by
  rw [List.map_append, List.pairwise_append]
  refine ⟨hbefore, ?_, ?_⟩
  · have hascending := List.pairwise_map.mp hbehind
    simpa [List.pairwise_map] using hascending
  · intro place hplace other hother
    obtain ⟨entry, hentry, rfl⟩ := List.mem_map.mp hplace
    obtain ⟨index, rest, hfirst, hlt⟩ := hlow entry hentry
    obtain ⟨_, hmem, rfl⟩ := List.mem_map.mp hother
    obtain ⟨_, _, rfl⟩ := List.mem_map.mp hmem
    rw [hfirst]
    exact List.cons_lt_cons_iff.mpr (Or.inl hlt)

/-! ## Computations through a list -/

/-- A computation that succeeds does so at both of its steps. -/
theorem exists_of_bind_ok {first : Except ε α} {next : α → Except ε β} {result : β}
    (hbind : (first >>= next) = .ok result) :
    ∃ value, first = .ok value ∧ next value = .ok result := by
  cases first with
  | error error => contradiction
  | ok value => exact ⟨value, rfl, hbind⟩

theorem toOption_eq_some_iff {computed : Except ε α} {value : α} :
    computed.toOption = some value ↔ computed = .ok value := by
  cases computed <;> simp [Except.toOption]

/-- A computation fails at an element of a list and succeeds at all elements before it. -/
def FailsFirst (compute : α → Except ε β) (elements : List α) (error : ε) : Prop :=
  ∃ before element after, elements = before ++ element :: after ∧
    (∀ earlier ∈ before, ∃ result, compute earlier = .ok result) ∧ compute element = .error error

/-- A computation through a list succeeds at every element, or it fails as it does at the first
element where it fails. -/
theorem mapM_cases (compute : α → Except ε β) (elements : List α) :
    (∃ results, elements.mapM compute = .ok results ∧
      List.Forall₂ (fun element result => compute element = .ok result) elements results) ∨
    (∃ error, elements.mapM compute = .error error ∧ FailsFirst compute elements error) := by
  induction elements with
  | nil => exact Or.inl ⟨[], rfl, .nil⟩
  | cons element rest ih =>
      rw [List.mapM_cons]
      cases hfirst : compute element with
      | error error =>
          exact Or.inr ⟨error, rfl, [], element, rest, rfl, List.forall_mem_nil _, hfirst⟩
      | ok result =>
          rcases ih with ⟨results, hok, hresults⟩ | ⟨error, herror, before, other, after, rfl,
            hbefore, hother⟩
          · refine Or.inl ⟨result :: results, ?_, .cons hfirst hresults⟩
            rw [hok]
            rfl
          · refine Or.inr ⟨error, ?_, element :: before, other, after, rfl,
              List.forall_mem_cons.mpr ⟨⟨result, hfirst⟩, hbefore⟩, hother⟩
            rw [herror]
            rfl

theorem mapM_eq_ok {compute : α → Except ε β} {elements : List α} {results : List β}
    (hall : List.Forall₂ (fun element result => compute element = .ok result) elements results) :
    elements.mapM compute = .ok results := by
  induction hall with
  | nil => rfl
  | cons hfirst _ ih =>
      rw [List.mapM_cons, hfirst, ih]
      rfl

theorem FailsFirst.mapM_eq {compute : α → Except ε β} {elements : List α} {error : ε}
    (hfails : FailsFirst compute elements error) : elements.mapM compute = .error error := by
  obtain ⟨before, element, after, rfl, hbefore, helement⟩ := hfails
  induction before with
  | nil =>
      rw [List.nil_append, List.mapM_cons, helement]
      rfl
  | cons first before ih =>
      obtain ⟨⟨result, hfirst⟩, hbefore⟩ := List.forall_mem_cons.mp hbefore
      rw [List.cons_append, List.mapM_cons, hfirst, ih hbefore]
      rfl

theorem mapM_eq_ok_iff {compute : α → Except ε β} {elements : List α} {results : List β} :
    elements.mapM compute = .ok results ↔
      List.Forall₂ (fun element result => compute element = .ok result) elements results := by
  refine ⟨fun hok => ?_, mapM_eq_ok⟩
  rcases mapM_cases compute elements with ⟨computed, hcomputed, hall⟩ | ⟨error, herror, _⟩
  · cases hcomputed.symm.trans hok
    exact hall
  · cases herror.symm.trans hok

theorem mapM_eq_error_iff {compute : α → Except ε β} {elements : List α} {error : ε} :
    elements.mapM compute = .error error ↔ FailsFirst compute elements error := by
  refine ⟨fun herror => ?_, FailsFirst.mapM_eq⟩
  rcases mapM_cases compute elements with ⟨results, hok, _⟩ | ⟨other, hother, hfails⟩
  · cases hok.symm.trans herror
  · cases hother.symm.trans herror
    exact hfails

/-- A computation that succeeds at every element gives all their results. -/
theorem mapM_eq_ok_filterMap {compute : α → Except ε β} {elements : List α}
    (hall : ∀ element ∈ elements, ∃ result, compute element = .ok result) :
    elements.mapM compute = .ok (elements.filterMap fun element => (compute element).toOption) := by
  induction elements with
  | nil => rfl
  | cons element rest ih =>
      obtain ⟨⟨result, hresult⟩, hrest⟩ := List.forall_mem_cons.mp hall
      rw [List.mapM_cons, hresult, ih hrest, List.filterMap_cons, hresult]
      rfl

/-- Every result of a computation through a list comes from one of its elements. -/
theorem exists_of_mem_mapM {compute : α → Except ε β} {elements : List α} {results : List β}
    (hresults : elements.mapM compute = .ok results) {result : β} (hmem : result ∈ results) :
    ∃ element ∈ elements, compute element = .ok result :=
  exists_mem_of_forall₂ (mapM_eq_ok_iff.mp hresults).flip hmem

/-- A computation that fails at some element fails. -/
theorem exists_error_of_mapM {compute : α → Except ε β} {elements : List α} {element : α}
    (hmem : element ∈ elements) (hfails : ∀ result, compute element ≠ .ok result) :
    ∃ error, elements.mapM compute = .error error := by
  cases hresults : elements.mapM compute with
  | error error => exact ⟨error, rfl⟩
  | ok results =>
      obtain ⟨result, _, hresult⟩ := exists_mem_of_forall₂ (mapM_eq_ok_iff.mp hresults) hmem
      exact absurd hresult (hfails result)

/-- Every result of an optional computation through a list comes from one of its elements. -/
theorem exists_of_mem_mapM_some {compute : α → Option β} {elements : List α} {results : List β}
    (hresults : elements.mapM compute = some results) {result : β} (hmem : result ∈ results) :
    ∃ element ∈ elements, compute element = some result := by
  induction elements generalizing results with
  | nil =>
      cases hresults
      contradiction
  | cons element rest ih =>
      rw [List.mapM_cons] at hresults
      obtain ⟨first, hfirst, hresults⟩ := Option.bind_eq_some_iff.mp hresults
      obtain ⟨others, hothers, hresults⟩ := Option.bind_eq_some_iff.mp hresults
      cases hresults
      rcases List.mem_cons.mp hmem with rfl | hrest
      · exact ⟨element, List.mem_cons_self, hfirst⟩
      · obtain ⟨other, hother, hcompute⟩ := ih hothers hrest
        exact ⟨other, List.mem_cons_of_mem _ hother, hcompute⟩

end ShaderCalls
