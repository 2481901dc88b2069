import Stencil.Text.Trim

/-!
# The parts of a text

A text that is cut at a separator falls into the parts on both sides of any one
occurrence of it; a text without the separator is its only part.
-/

namespace Stencil.Text

variable {sep : Char}

theorem splitOn_ne_nil (cs : List Char) : splitOn sep cs ≠ [] := by
  induction cs with
  | nil => exact List.cons_ne_nil _ _
  | cons c cs _ =>
      rw [splitOn]
      split
      · exact List.cons_ne_nil _ _
      · split <;> exact List.cons_ne_nil _ _

theorem splitOn_append (front back : List Char) :
    splitOn sep (front ++ sep :: back) = splitOn sep front ++ splitOn sep back := by
  induction front with
  | nil =>
      show (if sep = sep then [] :: splitOn sep back else _) = [[]] ++ splitOn sep back
      rw [if_pos rfl, List.singleton_append]
  | cons c front ih =>
      rw [List.cons_append, splitOn, splitOn]
      by_cases hc : c = sep
      · rw [if_pos hc, if_pos hc, ih, List.cons_append]
      · rw [if_neg hc, if_neg hc, ih]
        have hparts : splitOn sep front ≠ [] := splitOn_ne_nil front
        obtain ⟨part, parts, hparts⟩ := List.exists_cons_of_ne_nil hparts
        rw [hparts]
        rfl

theorem splitOn_whole {cs : List Char} (h : sep ∉ cs) : splitOn sep cs = [cs] := by
  induction cs with
  | nil => rfl
  | cons c cs ih =>
      rw [List.mem_cons, not_or] at h
      rw [splitOn, if_neg (Ne.symm h.1), ih h.2]

end Stencil.Text
