import Stencil.Proofs.Filters.Inverses
import Stencil.Proofs.Text.Trim

/-!
# No tag survives its removal

Taking tags out of a text puts together what stood around them, and what is put
together could be a tag again. It never is. A `<` is kept only if no `>` follows
it in the whole rest of the text, and that rest is then kept as it stands, so
behind a `<` that is kept there is nothing that could close it.

`Stripped` says case by case what is left of a text. The induction that carries
everything below is on it, and not on the tries of the function.
-/

namespace Stencil.Markup

open Stencil.Text

variable {c : Char} {cs ds : List Char}

/-- Somewhere behind a `<` there is a `>`. -/
def HasTag (cs : List Char) : Prop := ['<', '>'].Sublist cs

/-- What is left of a text without its tags, each of which goes from a `<` to the
next `>`. All else is kept in its order, also a `<` that nothing closes. -/
inductive Stripped : List Char → List Char → Prop
  | nil : Stripped [] []
  | plain {c : Char} {cs ds : List Char} : c ≠ '<' → Stripped cs ds → Stripped (c :: cs) (c :: ds)
  | unclosed {cs : List Char} : '>' ∉ cs → Stripped ('<' :: cs) ('<' :: cs)
  | tag {inner rest ds : List Char} : '>' ∉ inner → Stripped rest ds →
      Stripped ('<' :: (inner ++ '>' :: rest)) ds

/-! ## What the function leaves -/

/-- A text goes up to its first `>`, if it has one. -/
theorem dropWhile_bracket (cs : List Char) :
    (cs.dropWhile (· != '>') = [] ∧ '>' ∉ cs) ∨
      ∃ inner rest, cs.dropWhile (· != '>') = '>' :: rest ∧ cs = inner ++ '>' :: rest ∧
        '>' ∉ inner := by
  cases hdrop : cs.dropWhile (· != '>') with
  | nil => exact .inl ⟨rfl, fun hmem => by simpa using List.dropWhile_eq_nil_iff.1 hdrop _ hmem⟩
  | cons d rest =>
      have hhead : (cs.dropWhile (· != '>')).head? = some d := by rw [hdrop, List.head?_cons]
      have hd : (d != '>') = false := head?_dropWhile (p := (· != '>')) hhead
      obtain rfl : d = '>' := by simpa using hd
      refine .inr ⟨cs.takeWhile (· != '>'), rest, rfl, ?_, fun hmem => ?_⟩
      · rw [← hdrop, List.takeWhile_append_dropWhile]
      · simpa using List.mem_takeWhile_imp hmem

theorem stripTags_stripped : ∀ {tries : Nat} {cs : List Char}, cs.length ≤ tries →
    Stripped cs (stripTags tries cs) := by
  intro tries
  induction tries with
  | zero =>
      intro cs h
      rw [List.eq_nil_of_length_eq_zero (Nat.le_zero.1 h)]
      exact .nil
  | succ tries ih =>
      intro cs h
      cases cs with
      | nil => exact .nil
      | cons c cs =>
          have hlength : cs.length ≤ tries := Nat.le_of_succ_le_succ h
          rw [stripTags]
          split
          · next hc =>
              subst hc
              rcases dropWhile_bracket cs with ⟨hnil, hnone⟩ | ⟨inner, rest, hdrop, rfl, hinner⟩
              · rw [hnil]
                exact .unclosed hnone
              · rw [hdrop]
                refine .tag hinner (ih ?_)
                rw [List.length_append, List.length_cons] at hlength
                omega
          · next hc => exact .plain hc (ih hlength)

theorem withoutTags_stripped (cs : List Char) : Stripped cs (withoutTags cs) :=
  stripTags_stripped (Nat.le_refl _)

/-! ## What is left has no tag -/

theorem hasTag_cons : HasTag (c :: cs) ↔ HasTag cs ∨ c = '<' ∧ '>' ∈ cs := by
  rw [HasTag, List.sublist_cons_iff]
  refine or_congr Iff.rfl ⟨?_, ?_⟩
  · rintro ⟨_, ⟨⟩, hclose⟩
    exact ⟨rfl, List.singleton_sublist.1 hclose⟩
  · rintro ⟨rfl, hclose⟩
    exact ⟨_, rfl, List.singleton_sublist.2 hclose⟩

theorem mem_of_hasTag (h : HasTag cs) : '>' ∈ cs := h.subset (by simp)

theorem Stripped.not_hasTag (h : Stripped cs ds) : ¬ HasTag ds := by
  induction h with
  | nil => exact fun h => nomatch h
  | plain hc _ ih =>
      rw [hasTag_cons]
      rintro (h | ⟨rfl, -⟩)
      · exact ih h
      · exact hc rfl
  | unclosed hnone =>
      rw [hasTag_cons]
      rintro (h | ⟨-, h⟩)
      · exact hnone (mem_of_hasTag h)
      · exact hnone h
  | tag _ _ ih => exact ih

theorem Stripped.eq_of_not_hasTag (h : Stripped cs ds) (hcs : ¬ HasTag cs) : ds = cs := by
  induction h with
  | nil => rfl
  | plain hc _ ih => rw [ih fun h => hcs (hasTag_cons.2 (.inl h))]
  | unclosed => rfl
  | tag => exact absurd (hasTag_cons.2 (.inr ⟨rfl, by simp⟩)) hcs

/-- The filter takes every text and gives what is left of it without its tags.
Behind no `<` of that there is a `>`, so a second run finds nothing, and where
nothing is to be found the text is the same as before. -/
theorem tags_removed (s : String) :
    ∃ t : String, Registry.standard.apply "stripTags" (.str s) [] = .ok (.str t) ∧
      Stripped s.toList t.toList ∧ ¬ HasTag t.toList ∧
      Registry.standard.apply "stripTags" (.str t) [] = .ok (.str t) ∧
      (¬ HasTag s.toList → t = s) := by
  have hstripped := withoutTags_stripped s.toList
  have hclean := hstripped.not_hasTag
  have htwice := (withoutTags_stripped (withoutTags s.toList)).eq_of_not_hasTag hclean
  refine ⟨_, Standard.apply_onText rfl s, ?_, ?_, ?_, fun h => ?_⟩
  · rwa [String.toList_ofList]
  · rwa [String.toList_ofList]
  · rw [Standard.apply_onText (f := withoutTags) rfl, String.toList_ofList, htwice]
  · rw [hstripped.eq_of_not_hasTag h, String.ofList_toList]

end Stencil.Markup
