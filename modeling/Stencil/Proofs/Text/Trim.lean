import Stencil.Text.Trim
import Mathlib.Data.List.TakeWhile

/-!
# Trimmed texts

Trimming leaves a text alone exactly if neither end of it is to be dropped,
and what it leaves is such a text, so trimming twice is trimming once.
-/

namespace Stencil.Text

variable {p : Char → Bool} {cs : List Char}

/-- A character of a class is none that lies outside. -/
theorem ne_of_class {c : Char} (hc : p c = true) (d : Char) (hd : p d = false) :
    c ≠ d := by
  rintro rfl
  rw [hc] at hd
  cases hd

theorem head?_dropWhile {c : Char} (h : (cs.dropWhile p).head? = some c) : p c = false := by
  induction cs with
  | nil => cases h
  | cons d cs ih =>
      rw [List.dropWhile_cons] at h
      split at h
      · exact ih h
      · next hd =>
          cases h
          exact Bool.eq_false_iff.2 hd

theorem dropWhile_eq_self (h : ∀ c ∈ cs.head?, p c = false) : cs.dropWhile p = cs := by
  cases cs with
  | nil => rfl
  | cons d cs => rw [List.dropWhile_cons, h d rfl, if_neg Bool.false_ne_true]

/-- What is in a class up to the first character that is not. -/
theorem span_append {rest : List Char} (h : ∀ c ∈ cs, p c = true)
    (hrest : ∀ c ∈ rest.head?, p c = false) :
    (cs ++ rest).takeWhile p = cs ∧ (cs ++ rest).dropWhile p = rest := by
  rw [List.takeWhile_append_of_pos h, List.dropWhile_append_of_pos h, dropWhile_eq_self hrest]
  cases rest with
  | nil => exact ⟨List.append_nil _, rfl⟩
  | cons c rest =>
      rw [List.takeWhile_cons_of_neg (by simp [hrest c rfl])]
      exact ⟨List.append_nil _, rfl⟩

theorem trimWhile_eq_self (hfirst : ∀ c ∈ cs.head?, p c = false)
    (hlast : ∀ c ∈ cs.getLast?, p c = false) : trimWhile p cs = cs := by
  rw [trimWhile, dropWhile_eq_self hfirst, dropEndWhile, dropWhile_eq_self, List.reverse_reverse]
  rwa [List.head?_reverse]

theorem trimWhile_of_none (h : ∀ c ∈ cs, p c = false) : trimWhile p cs = cs :=
  trimWhile_eq_self (fun c hc => h c (List.mem_of_mem_head? hc))
    fun c hc => h c (List.mem_of_getLast? hc)

/-- Neither end of a trimmed text is to be dropped. -/
theorem trimWhile_ends (p : Char → Bool) (cs : List Char) :
    (∀ c ∈ (trimWhile p cs).head?, p c = false) ∧
      ∀ c ∈ (trimWhile p cs).getLast?, p c = false := by
  constructor
  · intro c hc
    have hbegins : trimWhile p cs <+: cs.dropWhile p := by
      rw [trimWhile, dropEndWhile, ← List.reverse_suffix, List.reverse_reverse]
      exact List.dropWhile_suffix p
    obtain ⟨rest, hrest⟩ := hbegins
    have hhead : (cs.dropWhile p).head? = some c := by
      rw [← hrest, List.head?_append, hc]
      rfl
    exact head?_dropWhile hhead
  · intro c hc
    rw [trimWhile, dropEndWhile, List.getLast?_reverse] at hc
    exact head?_dropWhile hc

theorem trimWhile_trimWhile (p : Char → Bool) (cs : List Char) :
    trimWhile p (trimWhile p cs) = trimWhile p cs :=
  trimWhile_eq_self (trimWhile_ends p cs).1 (trimWhile_ends p cs).2

/-- What is to be dropped around a text is dropped, and no more. -/
theorem trimWhile_padded {front back : List Char} (hfront : ∀ d ∈ front, p d = true)
    (hback : ∀ d ∈ back, p d = true) (hfirst : ∀ c ∈ cs.head?, p c = false)
    (hlast : ∀ d ∈ cs.getLast?, p d = false) : trimWhile p (front ++ cs ++ back) = cs := by
  have hbegin : (cs ++ back).dropWhile p = if cs = [] then [] else cs ++ back := by
    cases cs with
    | nil => rw [if_pos rfl, List.nil_append, List.dropWhile_eq_nil_iff.2 hback]
    | cons c cs =>
        rw [if_neg (List.cons_ne_nil c cs)]
        exact dropWhile_eq_self hfirst
  have hend : cs.reverse.dropWhile p = cs.reverse := by
    refine dropWhile_eq_self ?_
    rwa [List.head?_reverse]
  rw [trimWhile, List.append_assoc, List.dropWhile_append_of_pos hfront, hbegin, dropEndWhile]
  split
  · next hempty => rw [hempty]; rfl
  · rw [List.reverse_append, List.dropWhile_append_of_pos, hend, List.reverse_reverse]
    intro d hd
    exact hback d (List.mem_reverse.1 hd)

/-- A text that does not begin with what is to be dropped is what is left of it
and something to be dropped behind that. -/
theorem exists_trimWhile_append (hfirst : ∀ c ∈ cs.head?, p c = false) :
    ∃ back, cs = trimWhile p cs ++ back ∧ ∀ d ∈ back, p d = true := by
  refine ⟨(cs.reverse.takeWhile p).reverse, ?_, fun d hd => ?_⟩
  · rw [trimWhile, dropWhile_eq_self hfirst, dropEndWhile, ← List.reverse_append,
      List.takeWhile_append_dropWhile, List.reverse_reverse]
  · exact List.mem_takeWhile_imp (List.mem_reverse.1 hd)

theorem trim_trim (cs : List Char) : trim (trim cs) = trim cs :=
  trimWhile_trimWhile isBlank cs

end Stencil.Text
