import Stencil.Proofs.Chaining
import Stencil.Template.Engine

/-!
# The outline of an output

Once comments are removed and blocks are resolved, all that is left to do is
to put values in the places of variable tags. What there is at that point is
the outline of the output: a text, and the variable tags that were found in
it. Rendering is filling the outline, and the literal pieces between the tags
go into the output as they are, with what each tag gives between them.
-/

namespace Stencil

/-- A text and the variable tags in it. -/
structure Outline where
  text : List Char
  tags : List Variable

namespace Outline

/-- The pieces of a text, which begins at `pos`, between the given tags. -/
def piecesFrom : (pos : Nat) → (rest : List Char) → List Variable → List (List Char)
  | _, rest, [] => [rest]
  | pos, rest, v :: vs =>
      rest.take (v.start - pos) :: piecesFrom v.stop (rest.drop (v.stop - pos)) vs

/-- The literal pieces in front of the tags, between them and behind them. -/
def pieces (out : Outline) : List (List Char) := piecesFrom 0 out.text out.tags

/-- Pieces and values in turn, beginning and ending with a piece. -/
def interleave : (pieces values : List (List Char)) → List Char
  | [], _ => []
  | piece :: _, [] => piece
  | piece :: pieces, value :: values => piece ++ value ++ interleave pieces values

theorem splice_eq_interleave : ∀ {vs : List Variable} {pos : Nat} {rest : List Char}
    {values : List (List Char)}, values.length = vs.length →
    Options.splice pos rest (vs.zip values) = interleave (piecesFrom pos rest vs) values := by
  intro vs
  induction vs with
  | nil =>
      intro pos rest values hlength
      rw [List.length_nil, List.length_eq_zero_iff] at hlength
      rw [hlength, List.zip_nil_right, Options.splice, piecesFrom, interleave]
  | cons v vs ih =>
      intro pos rest values hlength
      cases values with
      | nil => simp at hlength
      | cons value values =>
          rw [List.zip_cons_cons, Options.splice, piecesFrom, interleave,
            ih (by simpa using hlength)]

end Outline

namespace Options

variable {o : Options} {args : Arguments}

/-- The outline that is left of a template. -/
def outline (o : Options) (template : List Char) (args : Arguments) : Run Outline := do
  let text ← o.resolveBlocks (o.stripComments template) args
  let vs ← Run.ofExcept (Variable.scan o.patterns text)
  pure ⟨text, vs⟩

/-- The outline with what its tags give put between its pieces. -/
def fill (o : Options) (args : Arguments) (out : Outline) : Run (List Char) := do
  let values ← o.replacements args out.tags
  pure (Outline.interleave out.pieces values)

theorem replacements_cons (v : Variable) (vs : List Variable) :
    o.replacements args (v :: vs) = (do
      let value ← o.valueOf v args
      let cs ← Run.ofExcept value.renderChars
      let rest ← o.replacements args vs
      pure (cs :: rest)) := rfl

theorem length_replacements {vs : List Variable} : ∀ {values : List (List Char)},
    (o.replacements args vs).result = .ok values → values.length = vs.length := by
  induction vs with
  | nil => intro values h; cases h; rfl
  | cons v vs ih =>
      intro values h
      simp only [replacements_cons, Run.bind_result] at h
      obtain ⟨value, _, h⟩ := bind_eq_ok.1 h
      obtain ⟨cs, _, h⟩ := bind_eq_ok.1 h
      obtain ⟨rest, hrest, h⟩ := bind_eq_ok.1 h
      cases h
      rw [List.length_cons, List.length_cons, ih hrest]

theorem replacements_append (front back : List Variable) :
    o.replacements args (front ++ back) = (do
      let xs ← o.replacements args front
      let ys ← o.replacements args back
      pure (xs ++ ys)) := by
  induction front with
  | nil => simp [Options.replacements]
  | cons v front ih =>
      rw [List.cons_append, replacements_cons, replacements_cons, ih]
      simp only [bind_assoc, pure_bind, List.cons_append]

/-- Rendering a template is filling its outline. -/
theorem renderChars_eq_fill (template : List Char) :
    o.renderChars template args = o.outline template args >>= o.fill args := by
  rw [renderChars, outline]
  simp only [substitute, bind_assoc, pure_bind]
  congr 1
  funext text
  congr 1
  funext vs
  refine Run.bind_congr fun values h => ?_
  rw [Outline.splice_eq_interleave (length_replacements h), Outline.pieces]

end Options

end Stencil
