import Mathlib.Data.List.Nodup

/-!
# Entries by key

Names and places are looked up in lists of entries. A key is found exactly if it
is listed, and where no key comes twice every entry is found under its key.
-/

namespace Stencil

variable {α β : Type} [BEq α] [LawfulBEq α]

theorem lookup_mem {entries : List (α × β)} {key : α} {value : β}
    (h : entries.lookup key = some value) : (key, value) ∈ entries := by
  obtain ⟨front, back, rfl, _⟩ := List.lookup_eq_some_iff.1 h
  exact List.mem_append_right _ List.mem_cons_self

theorem lookup_eq_some {entries : List (α × β)} {key : α} {value : β}
    (hkeys : (entries.map (·.1)).Nodup) :
    entries.lookup key = some value ↔ (key, value) ∈ entries := by
  refine ⟨lookup_mem, fun h => ?_⟩
  obtain ⟨front, back, rfl⟩ := List.append_of_mem h
  refine List.lookup_eq_some_iff.2 ⟨front, back, rfl, fun e he => ?_⟩
  rw [List.map_append, List.map_cons] at hkeys
  have hne : key ≠ e.1 := by
    rintro rfl
    exact (List.nodup_append.1 hkeys).2.2 _ (List.mem_map_of_mem he) _ List.mem_cons_self rfl
  exact bne_iff_ne.2 hne

theorem lookup_isSome {entries : List (α × β)} {key : α} :
    (entries.lookup key).isSome = true ↔ key ∈ entries.map (·.1) := by
  induction entries with
  | nil => simp
  | cons e entries ih =>
      rw [List.lookup_cons, List.map_cons, List.mem_cons]
      by_cases h : key = e.1
      · simp [h]
      · rw [beq_eq_false_iff_ne.2 h]
        simp [h, ih]

end Stencil
