import Mathlib.Data.List.Sort
import ShaderCalls.FunctionId

/-!
# Sorted lists

Elements sorted by a key come out the same however they were arranged before, if no two of them
share a key.  Those that share one keep their order.
-/

namespace ShaderCalls

section

variable {α β : Type} [Ord β] [Std.TransOrd β] (key : α → β)

theorem isLE_key_trans (first second third : α)
    (hfirst : (compare (key first) (key second)).isLE)
    (hsecond : (compare (key second) (key third)).isLE) :
    (compare (key first) (key third)).isLE :=
  Std.TransCmp.isLE_trans hfirst hsecond

theorem isLE_key_total (left right : α) :
    (compare (key left) (key right)).isLE || (compare (key right) (key left)).isLE := by
  have hswap : compare (key right) (key left) = (compare (key left) (key right)).swap :=
    Std.OrientedCmp.eq_swap
  rw [hswap]
  cases compare (key left) (key right) <;> rfl

theorem pairwise_mergeSort_key (elements : List α) :
    (elements.mergeSort fun left right => (compare (key left) (key right)).isLE).Pairwise
      fun left right => (compare (key left) (key right)).isLE :=
  List.pairwise_mergeSort (isLE_key_trans key) (isLE_key_total key) elements

/-- Elements with the same key keep their order. -/
theorem filter_mergeSort_key [DecidableEq β] (elements : List α) (value : β) :
    (elements.mergeSort fun left right => (compare (key left) (key right)).isLE).filter
      (key · = value) = elements.filter (key · = value) := by
  have hequal : (elements.filter (key · = value)).Pairwise
      fun left right => (compare (key left) (key right)).isLE := by
    apply List.pairwise_of_forall_mem_list
    intro left hleft right hright
    have hleftKey : key left = value := by simpa using (List.mem_filter.mp hleft).2
    have hrightKey : key right = value := by simpa using (List.mem_filter.mp hright).2
    rw [hleftKey, hrightKey]
    exact Std.ReflCmp.isLE_rfl
  have hsublist : (elements.filter (key · = value)).Sublist
      (elements.mergeSort fun left right => (compare (key left) (key right)).isLE) :=
    List.sublist_mergeSort (isLE_key_trans key) (isLE_key_total key) hequal List.filter_sublist
  have hfiltered := hsublist.filter (key · = value)
  simp only [List.filter_filter, Bool.and_self] at hfiltered
  exact (hfiltered.eq_of_length ((List.mergeSort_perm elements _).filter _).length_eq.symm).symm

/-- The first element with a key is found first in the sorted list too. -/
theorem find?_mergeSort_key [DecidableEq β] (elements : List α) (value : β) :
    (elements.mergeSort fun left right => (compare (key left) (key right)).isLE).find?
      (key · = value) = elements.find? (key · = value) := by
  rw [← List.head?_filter, ← List.head?_filter, filter_mergeSort_key]

variable [Std.LawfulEqOrd β] {elements permuted : List α}

theorem mergeSort_key_eq_of_perm
    (hkey : ∀ left ∈ elements, ∀ right ∈ elements, key left = key right → left = right)
    (hperm : elements.Perm permuted) :
    (elements.mergeSort fun left right => (compare (key left) (key right)).isLE) =
      permuted.mergeSort fun left right => (compare (key left) (key right)).isLE := by
  apply List.Perm.eq_of_pairwise _ (pairwise_mergeSort_key key _) (pairwise_mergeSort_key key _)
  · exact (List.mergeSort_perm ..).trans (hperm.trans (List.mergeSort_perm ..).symm)
  · intro left right hleft hright hle hge
    apply hkey left ((List.mergeSort_perm ..).mem_iff.mp hleft)
    · exact hperm.mem_iff.mpr ((List.mergeSort_perm ..).mem_iff.mp hright)
    · exact Std.LawfulEqCmp.eq_of_compare (Std.OrientedCmp.isLE_antisymm hle hge)

end

section

variable {α : Type} [Ord α] [Std.TransOrd α] [Std.LawfulEqOrd α] {elements permuted : List α}

theorem ascending_eq_of_perm (hperm : elements.Perm permuted) :
    ascending elements = ascending permuted :=
  mergeSort_key_eq_of_perm id (fun _ _ _ _ heq => heq) hperm

theorem ascendingDistinct_eq_of_perm [BEq α] (hperm : elements.Perm permuted) :
    ascendingDistinct elements = ascendingDistinct permuted := by
  rw [ascendingDistinct, ascendingDistinct, ascending_eq_of_perm hperm]

end

namespace FunctionId

instance : Std.TransOrd FunctionId :=
  inferInstanceAs (Std.TransCmp (compareLex (compareOn owner) (compareOn name)))

instance : Std.LawfulEqOrd FunctionId where
  eq_of_compare := by
    intro left right hcompare
    obtain ⟨howner, hname⟩ := Ordering.then_eq_eq.mp hcompare
    cases left
    cases right
    rw [mk.injEq]
    exact ⟨Std.LawfulEqCmp.eq_of_compare howner, Std.LawfulEqCmp.eq_of_compare hname⟩

end FunctionId

end ShaderCalls
