import Mathlib.Data.String.Basic
import Stencil.Proofs.Sorting

/-!
# Names in rising order

Names are told in the order of their code points. Sorting that compares by "not
above" leaves two equal names next to each other; where no name comes twice,
each is strictly below the next.
-/

namespace Stencil.Text

variable {names : List String}

theorem mergeSort_rising (h : names.Nodup) :
    (names.mergeSort fun a b => !(b < a)).Pairwise (· < ·) := by
  have hsame : (names.mergeSort fun a b => !(b < a)) = names.mergeSort fun a b => decide (a ≤ b) :=
    mergeSort_congr fun a _ b _ => by rw [← decide_not]; simp only [not_lt]
  have hsorted : (names.mergeSort fun a b => !(b < a)).Pairwise fun a b => a ≤ b := by
    rw [hsame]
    exact mergeSort_sorted id names
  have hdistinct : (names.mergeSort fun a b => !(b < a)).Nodup :=
    (List.mergeSort_perm names _).nodup_iff.2 h
  exact (hsorted.and hdistinct).imp fun hab => lt_of_le_of_ne hab.1 hab.2

end Stencil.Text
