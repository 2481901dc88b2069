import Mathlib.Order.Lattice

/-!
# Sorting by a key

How a list is sorted depends on what the comparison says of its members alone.
If they are compared by a key and no two of them share one, the sorted list
depends on the members alone, in whatever order they came.
-/

namespace Stencil

section

variable {α κ : Type} [LinearOrder κ] {le le' : α → α → Bool} {key : α → κ} {xs ys : List α}

theorem mergeSort_congr (h : ∀ a ∈ xs, ∀ b ∈ xs, le a b = le' a b) :
    xs.mergeSort le = xs.mergeSort le' := by
  simpa using List.map_mergeSort (f := id) h

theorem mergeSort_sorted (key : α → κ) (xs : List α) :
    (xs.mergeSort fun a b => decide (key a ≤ key b)).Pairwise fun a b => key a ≤ key b := by
  refine (List.pairwise_mergeSort (fun a b c hab hbc => ?_) (fun a b => ?_) xs).imp
    of_decide_eq_true
  · exact decide_eq_true (le_trans (of_decide_eq_true hab) (of_decide_eq_true hbc))
  · rw [Bool.or_eq_true, decide_eq_true_iff, decide_eq_true_iff]
    exact le_total _ _

theorem mergeSort_eq_of_perm (hperm : xs.Perm ys)
    (hkey : ∀ a ∈ xs, ∀ b ∈ xs, key a = key b → a = b) :
    xs.mergeSort (fun a b => decide (key a ≤ key b)) =
      ys.mergeSort fun a b => decide (key a ≤ key b) := by
  refine List.Perm.eq_of_pairwise (fun a b ha hb hab hba => ?_) (mergeSort_sorted key xs)
    (mergeSort_sorted key ys) ?_
  · exact hkey a (List.mem_mergeSort.1 ha) b (hperm.mem_iff.2 (List.mem_mergeSort.1 hb))
      (le_antisymm hab hba)
  · exact (List.mergeSort_perm xs _).trans (hperm.trans (List.mergeSort_perm ys _).symm)

end

end Stencil
