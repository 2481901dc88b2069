import Stencil.Proofs.Template.TagShape

/-!
# Cutting a text at a phrase

The first place where a phrase stands divides a text into what is in front of
the phrase and what is behind it. Both are determined by two facts: put
together around the phrase they are the text, and the phrase stands nowhere
further in front.
-/

namespace Stencil.Text

open Stencil.TagPattern

/-- The text in front of the first occurrence of a phrase, and the text behind it. -/
def cut? (word : List Char) : List Char → Option (List Char × List Char)
  | [] => none
  | c :: cs =>
      match afterPhrase? word (c :: cs) with
      | some rest => some ([], rest)
      | none => (cut? word cs).map fun parts => (c :: parts.1, parts.2)

section

variable {word cs front rest : List Char}

theorem cut?_here {c : Char} (h : afterPhrase? word (c :: cs) = some rest) :
    cut? word (c :: cs) = some ([], rest) := by
  rw [cut?, h]

theorem cut?_later {c : Char} (h : afterPhrase? word (c :: cs) = none) :
    cut? word (c :: cs) = (cut? word cs).map fun parts => (c :: parts.1, parts.2) := by
  rw [cut?, h]

theorem cut?_eq_append (h : cut? word cs = some (front, rest)) : cs = front ++ (word ++ rest) := by
  induction cs generalizing front with
  | nil => cases h
  | cons c cs ih =>
      cases hhere : afterPhrase? word (c :: cs) with
      | some rest' =>
          rw [cut?_here hhere] at h
          cases h
          rw [afterPhrase?_eq_some.1 hhere, List.nil_append]
      | none =>
          rw [cut?_later hhere] at h
          obtain ⟨⟨front', rest'⟩, hcut, hparts⟩ := Option.map_eq_some_iff.1 h
          cases hparts
          rw [ih hcut]
          rfl

/-- In front of the place where a text is cut the phrase stands nowhere. -/
theorem cut?_first (h : cut? word cs = some (front, rest)) :
    ∀ m < front.length, afterPhrase? word (cs.drop m) = none := by
  induction cs generalizing front with
  | nil => cases h
  | cons c cs ih =>
      intro m hm
      cases hhere : afterPhrase? word (c :: cs) with
      | some rest' =>
          rw [cut?_here hhere] at h
          cases h
          cases hm
      | none =>
          rw [cut?_later hhere] at h
          obtain ⟨⟨front', rest'⟩, hcut, hparts⟩ := Option.map_eq_some_iff.1 h
          cases hparts
          cases m with
          | zero => exact hhere
          | succ m => exact ih hcut m (Nat.lt_of_succ_lt_succ hm)

theorem cut?_none {w : Char} (h : cut? (w :: word) cs = none) (m : Nat) :
    afterPhrase? (w :: word) (cs.drop m) = none := by
  induction cs generalizing m with
  | nil => rw [List.drop_nil]; rfl
  | cons c cs ih =>
      cases hhere : afterPhrase? (w :: word) (c :: cs) with
      | some rest =>
          rw [cut?_here hhere] at h
          cases h
      | none =>
          rw [cut?_later hhere, Option.map_eq_none_iff] at h
          cases m with
          | zero => exact hhere
          | succ m => exact ih h m

theorem notInfix_of_cut?_none {w : Char} (h : cut? (w :: word) cs = none) :
    ¬ (w :: word) <:+: cs := by
  rintro ⟨before, behind, rfl⟩
  have hnone := cut?_none h before.length
  rw [List.append_assoc, List.drop_left, afterPhrase?_eq_some.2 rfl] at hnone
  cases hnone

/-- A text that lacks a phrase lacks it in every part at its end. -/
theorem cut?_drop_none {w : Char} (h : cut? (w :: word) cs = none) (m : Nat) :
    cut? (w :: word) (cs.drop m) = none := by
  cases hcut : cut? (w :: word) (cs.drop m) with
  | none => rfl
  | some parts =>
      have hnone := cut?_none h (m + parts.1.length)
      rw [← List.drop_drop, cut?_eq_append hcut, List.drop_left,
        afterPhrase?_eq_some.2 rfl] at hnone
      cases hnone

/-- A phrase of two different characters cannot begin in front of where it is
put, unless it stands there already. -/
theorem cut?_put {a b : Char} (hne : a ≠ b) (h : ¬ [a, b] <:+: front) :
    cut? [a, b] (front ++ a :: b :: rest) = some (front, rest) := by
  induction front with
  | nil => exact cut?_here (afterPhrase?_eq_some.2 rfl)
  | cons c cs ih =>
      have htail : ¬ [a, b] <:+: cs := fun hin => h (List.infix_cons hin)
      have hhere : afterPhrase? [a, b] (c :: (cs ++ a :: b :: rest)) = none := by
        cases hafter : afterPhrase? [a, b] (c :: (cs ++ a :: b :: rest)) with
        | none => rfl
        | some behind =>
            have heq := afterPhrase?_eq_some.1 hafter
            cases cs with
            | nil =>
                simp only [List.nil_append, List.cons_append, List.cons.injEq] at heq
                exact absurd heq.2.1 hne
            | cons d cs =>
                simp only [List.cons_append, List.nil_append, List.cons.injEq] at heq
                obtain ⟨rfl, rfl, _⟩ := heq
                exact absurd ⟨[], cs, rfl⟩ h
      rw [List.cons_append, cut?_later hhere, ih htail]
      rfl

end

end Stencil.Text
