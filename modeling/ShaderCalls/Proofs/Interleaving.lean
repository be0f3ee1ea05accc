import Mathlib.Data.List.Basic

/-!
# Interleavings

Several lists are emptied into one, always from the front of some list.  Which list comes next is
open, so a search of the whole may find a hit of any of them, but of each it finds the hit that it
finds in that list alone.
-/

namespace ShaderCalls

variable {α β : Type}

/-- A list holds the elements of several lists, those of each in their order. -/
inductive Interleaves : List (List α) → List α → Prop
  | nil {parts : List (List α)} (hempty : ∀ part ∈ parts, part = []) : Interleaves parts []
  /-- The next element is the first of the list at some place. -/
  | cons (place : Nat) {parts : List (List α)} {first : α} {rest whole : List α}
      (hpart : parts[place]? = some (first :: rest))
      (hrest : Interleaves (parts.set place rest) whole) : Interleaves parts (first :: whole)

namespace Interleaves

variable {parts : List (List α)} {part whole : List α}

/-! ## One list behind the other -/

theorem cons_nil (hwhole : Interleaves parts whole) : Interleaves ([] :: parts) whole := by
  induction hwhole with
  | nil hempty => exact .nil (by simpa using hempty)
  | cons place hpart _ ih => exact .cons (place + 1) hpart ih

theorem cons_append (part : List α) (hwhole : Interleaves parts whole) :
    Interleaves (part :: parts) (part ++ whole) := by
  induction part with
  | nil => exact hwhole.cons_nil
  | cons first rest ih => exact .cons 0 rfl ih

theorem flatten (parts : List (List α)) : Interleaves parts parts.flatten := by
  induction parts with
  | nil => exact .nil (by simp)
  | cons part rest ih => exact ih.cons_append part

/-! ## The elements of the whole -/

theorem flatten_perm_of_getElem? {place : Nat} {first : α} {rest : List α}
    (hpart : parts[place]? = some (first :: rest)) :
    parts.flatten.Perm (first :: (parts.set place rest).flatten) := by
  induction parts generalizing place with
  | nil => simp at hpart
  | cons part parts ih =>
      cases place with
      | zero =>
          obtain rfl : part = first :: rest := by simpa using hpart
          rfl
      | succ place =>
          have hparts := ih (by simpa using hpart)
          exact (hparts.append_left part).trans List.perm_middle

theorem perm_flatten (hwhole : Interleaves parts whole) : whole.Perm parts.flatten := by
  induction hwhole with
  | nil hempty => rw [List.flatten_eq_nil_iff.mpr hempty]
  | cons _ hpart _ ih => exact (ih.cons _).trans (flatten_perm_of_getElem? hpart).symm

theorem mem_iff (hwhole : Interleaves parts whole) {element : α} :
    element ∈ whole ↔ ∃ part ∈ parts, element ∈ part := by
  rw [hwhole.perm_flatten.mem_iff, List.mem_flatten]

/-! ## Reading backwards -/

/-- The last element of a part may as well come last. -/
theorem concat (hwhole : Interleaves parts whole) (last : α) {place : Nat}
    (hpart : parts[place]? = some part) :
    Interleaves (parts.set place (part ++ [last])) (whole ++ [last]) := by
  induction hwhole generalizing part with
  | @nil parts hempty =>
      have hplace := (List.getElem?_eq_some_iff.mp hpart).1
      obtain rfl := hempty part (List.mem_of_getElem? hpart)
      refine .cons place (List.getElem?_set_self hplace) (.nil ?_)
      rw [List.set_set]
      intro other hother
      exact (List.mem_or_eq_of_mem_set hother).elim (hempty other) id
  | @cons next parts first rest whole hnext _ ih =>
      have hplace := (List.getElem?_eq_some_iff.mp hpart).1
      by_cases hsame : next = place
      · subst hsame
        obtain rfl : part = first :: rest := Option.some.inj (hpart.symm.trans hnext)
        have hlonger := ih (List.getElem?_set_self hplace)
        rw [List.set_set] at hlonger
        refine .cons next (List.getElem?_set_self hplace) ?_
        rwa [List.set_set]
      · have hother := ih ((List.getElem?_set_ne hsame).trans hpart)
        rw [List.set_comm _ _ hsame] at hother
        exact .cons next ((List.getElem?_set_ne (Ne.symm hsame)).trans hnext) hother

theorem reverse (hwhole : Interleaves parts whole) :
    Interleaves (parts.map List.reverse) whole.reverse := by
  induction hwhole with
  | nil hempty =>
      refine .nil (List.forall_mem_map.mpr fun part hpart => ?_)
      rw [hempty part hpart, List.reverse_nil]
  | @cons place parts first rest whole hpart _ ih =>
      obtain ⟨hplace, hfirst⟩ := List.getElem?_eq_some_iff.mp hpart
      have hparts : parts.set place (first :: rest) = parts := by
        rw [← hfirst, List.set_getElem_self]
      have hlast : ((parts.set place rest).map List.reverse)[place]? = some rest.reverse := by
        simp [hplace]
      have hlonger := ih.concat first hlast
      rw [← List.reverse_cons, ← List.map_set, List.set_set, hparts, ← List.reverse_cons] at hlonger
      exact hlonger

/-! ## Searches -/

theorem exists_find? (hwhole : Interleaves parts whole) {test : α → Bool} {found : α}
    (hfound : whole.find? test = some found) : ∃ part ∈ parts, part.find? test = some found := by
  induction hwhole with
  | nil => simp at hfound
  | @cons place parts first rest whole hpart _ ih =>
      have hmem := List.mem_of_getElem? hpart
      by_cases htest : test first = true
      · exact ⟨_, hmem, by rwa [List.find?_cons_of_pos htest] at hfound ⊢⟩
      · rw [List.find?_cons_of_neg htest] at hfound
        obtain ⟨part, hmem', hfind⟩ := ih hfound
        rcases List.mem_or_eq_of_mem_set hmem' with hpart' | rfl
        · exact ⟨part, hpart', hfind⟩
        · exact ⟨_, hmem, by rwa [List.find?_cons_of_neg htest]⟩

section

variable {sources permuted : List α} {entries : α → List β} {left right : List β} {test : β → Bool}

/-- Where all hits are in one of the lists, the whole has the first hit of that one. -/
theorem find?_eq_some_iff {whole : List β} (hwhole : Interleaves (sources.map entries) whole)
    (hone : ∀ source ∈ sources, ∀ other ∈ sources, ∀ a ∈ entries source, ∀ b ∈ entries other,
      test a → test b → source = other) {found : β} :
    whole.find? test = some found ↔
      ∃ source ∈ sources, (entries source).find? test = some found := by
  have hexists : ∀ {hit}, whole.find? test = some hit →
      ∃ source ∈ sources, (entries source).find? test = some hit := by
    intro hit hhit
    simpa using hwhole.exists_find? hhit
  constructor
  · exact hexists
  · rintro ⟨source, hsource, hfound⟩
    have hmem := List.mem_of_find?_eq_some hfound
    have htest := List.find?_some hfound
    cases hhit : whole.find? test with
    | none =>
        have hwholeMem : found ∈ whole :=
          hwhole.mem_iff.mpr ⟨_, List.mem_map_of_mem hsource, hmem⟩
        exact absurd htest (List.find?_eq_none.mp hhit found hwholeMem)
    | some hit =>
        obtain ⟨other, hother, hfind⟩ := hexists hhit
        have hsame : other = source :=
          hone other hother source hsource hit (List.mem_of_find?_eq_some hfind) found hmem
            (List.find?_some hfind) htest
        rw [← hfind, hsame, hfound]

/-- Then it depends neither on the order of the lists nor on the interleaving what is found. -/
theorem find?_eq_of_perm (hleft : Interleaves (sources.map entries) left)
    (hright : Interleaves (permuted.map entries) right) (hperm : sources.Perm permuted)
    (hone : ∀ source ∈ sources, ∀ other ∈ sources, ∀ a ∈ entries source, ∀ b ∈ entries other,
      test a → test b → source = other) :
    left.find? test = right.find? test := by
  apply Option.ext
  intro found
  have hpermuted : ∀ source ∈ permuted, ∀ other ∈ permuted, ∀ a ∈ entries source,
      ∀ b ∈ entries other, test a → test b → source = other := fun source hsource other hother =>
    hone source (hperm.mem_iff.mpr hsource) other (hperm.mem_iff.mpr hother)
  rw [hleft.find?_eq_some_iff hone, hright.find?_eq_some_iff hpermuted]
  simp only [hperm.mem_iff]

theorem perm_of_perm (hleft : Interleaves (sources.map entries) left)
    (hright : Interleaves (permuted.map entries) right) (hperm : sources.Perm permuted) :
    left.Perm right :=
  hleft.perm_flatten.trans ((hperm.map entries).flatten.trans hright.perm_flatten.symm)

end

end Interleaves

end ShaderCalls
