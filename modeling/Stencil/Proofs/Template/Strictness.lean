import Stencil.Proofs.Template.Outline

/-!
# What a strict engine refuses

A strict engine and one that is not differ in one thing: a variable that is
neither given nor has a default is refused by the first and null to the
second. The outline of the output does not depend on it, conditions being
strict in either case, so the two runs are the same up to the first such
tag. There the strict one stops, while the other goes on with null and may
still fail, in the filter of this tag or behind it.

So there are two cases. Without a missing tag the runs are equal. With one,
the strict run is what the tags in front of it give, and then the refusal.
-/

namespace Stencil.Options

variable {o : Options} {args : Arguments} {vs front back : List Variable} {v : Variable}

/-- The same options, but as strict as said. -/
def withStrict (o : Options) (strict : Bool) : Options := { o with strict }

/-- A tag whose name is not given and that has no default. -/
def isMissing (args : Arguments) (v : Variable) : Bool :=
  (args.find? v.name).isNone && !v.hasDefault

/-- A list of tags cut at the first one that is missing. -/
structure FirstMissing (args : Arguments) (vs front : List Variable) (v : Variable)
    (back : List Variable) : Prop where
  split : vs = front ++ v :: back
  given : ∀ w ∈ front, isMissing args w = false
  missing : isMissing args v = true

theorem firstMissing_or (args : Arguments) (vs : List Variable) :
    (∀ v ∈ vs, isMissing args v = false) ∨ ∃ front v back, FirstMissing args vs front v back := by
  cases hfind : vs.find? (isMissing args) with
  | none =>
      left
      intro v hv
      exact Bool.eq_false_iff.2 (List.find?_eq_none.1 hfind v hv)
  | some v =>
      right
      obtain ⟨hmissing, front, back, hsplit, hgiven⟩ := List.find?_eq_some_iff_append.1 hfind
      exact ⟨front, v, back, hsplit, fun w hw => by simpa using hgiven w hw, hmissing⟩

/-! ## One tag -/

theorem valueOf_given (h : isMissing args v = false) (s t : Bool) :
    (o.withStrict s).valueOf v args = (o.withStrict t).valueOf v args := by
  have hplain : (o.withStrict s).plainValue v args = (o.withStrict t).plainValue v args := by
    rw [plainValue, plainValue]
    cases hfind : args.find? v.name with
    | some value => rfl
    | none =>
        have hdefault : v.hasDefault = true := by simpa [isMissing, hfind] using h
        simp only [hdefault, if_true]
  rw [valueOf, valueOf, hplain]
  rfl

theorem valueOf_missing (h : isMissing args v = true) :
    ((o.withStrict true).valueOf v args).result = .error (.unresolved v.name) := by
  simp only [isMissing, Bool.and_eq_true, Option.isNone_iff_eq_none, Bool.not_eq_true'] at h
  have hplain : (o.withStrict true).plainValue v args = Run.fail (.unresolved v.name) := by
    rw [plainValue, h.1, h.2]
    rfl
  rw [valueOf, hplain, Run.bind_result]
  rfl

/-! ## All tags -/

theorem replacements_given (h : ∀ v ∈ vs, isMissing args v = false) (s t : Bool) :
    (o.withStrict s).replacements args vs = (o.withStrict t).replacements args vs := by
  induction vs with
  | nil => rfl
  | cons v vs ih =>
      rw [replacements_cons, replacements_cons, valueOf_given (h v List.mem_cons_self) s t,
        ih fun w hw => h w (List.mem_cons_of_mem v hw)]

/-- A strict engine gets as far as the first missing tag. -/
theorem replacements_firstMissing (h : FirstMissing args vs front v back) :
    ((o.withStrict true).replacements args vs).result =
      ((o.withStrict false).replacements args front).result >>=
        fun _ => .error (.unresolved v.name) := by
  rw [h.split, replacements_append, replacements_cons, replacements_given h.given true false]
  simp only [Run.bind_result, valueOf_missing h.missing, error_bind]

theorem outline_withStrict (s : Bool) (template : List Char) :
    (o.withStrict s).outline template args = o.outline template args := rfl

theorem fill_result (out : Outline) : (o.fill args out).result =
    (o.replacements args out.tags).result.map (Outline.interleave out.pieces) := by
  rw [fill, Run.bind_result]
  cases (o.replacements args out.tags).result <;> rfl

/-- Filling an outline with a missing tag: what the strict engine does, and
what the other one does once the tags in front of it have their values. -/
theorem fill_firstMissing {out : Outline} (h : FirstMissing args out.tags front v back) :
    (∃ f, ((o.withStrict true).fill args out).result = .error f ∧
        ((o.withStrict false).fill args out).result = .error f) ∨
      ((o.withStrict true).fill args out).result = .error (.unresolved v.name) ∧
        ∃ values, ((o.withStrict false).replacements args front).result = .ok values ∧
          ∀ f, ((o.withStrict false).fill args out).result = .error f →
            ((o.withStrict false).replacements args (v :: back)).result = .error f := by
  have hlenient : ((o.withStrict false).replacements args out.tags).result = (do
      let xs ← ((o.withStrict false).replacements args front).result
      let ys ← ((o.withStrict false).replacements args (v :: back)).result
      .ok (xs ++ ys)) := by
    rw [h.split, replacements_append]
    simp only [Run.bind_result, Run.pure_result]
  rw [fill_result, fill_result, replacements_firstMissing h, hlenient]
  cases ((o.withStrict false).replacements args front).result with
  | error f => exact .inl ⟨f, rfl, rfl⟩
  | ok values =>
      refine .inr ⟨rfl, values, rfl, fun f hf => ?_⟩
      cases hback : ((o.withStrict false).replacements args (v :: back)).result with
      | error g =>
          rw [hback] at hf
          cases hf
          rfl
      | ok more =>
          rw [hback] at hf
          cases hf

/-! ## Rendering -/

theorem render_result (template : String) : o.render (.str template) args =
    (o.outline template.toList args >>= o.fill args).result.map fun cs =>
      .str (String.ofList cs) := by
  rw [render, renderText, renderChars_eq_fill]
  cases (o.outline template.toList args >>= o.fill args).result <;> rfl

/-- Being strict only adds refusals of missing variables. What a strict engine
gives the other one gives too. Where only the strict one fails, it refuses
the first variable tag of the outline that is missing. Where the other one
fails the strict one does, either alike or by that refusal; in the second
case every tag in front has its value, so the other failure does not come
earlier. -/
theorem render_withStrict (o : Options) (template : String) (args : Arguments) :
    (∀ output, (o.withStrict true).render (.str template) args = .ok output →
      (o.withStrict false).render (.str template) args = .ok output) ∧
    (∀ output f, (o.withStrict false).render (.str template) args = .ok output →
      (o.withStrict true).render (.str template) args = .error f →
      ∃ out front v back, (o.outline template.toList args).result = .ok out ∧
        FirstMissing args out.tags front v back ∧ f = .unresolved v.name) ∧
    ∀ f, (o.withStrict false).render (.str template) args = .error f →
      (o.withStrict true).render (.str template) args = .error f ∨
      ∃ out front v back, (o.outline template.toList args).result = .ok out ∧
        FirstMissing args out.tags front v back ∧
        (o.withStrict true).render (.str template) args = .error (.unresolved v.name) ∧
        (∃ values, ((o.withStrict false).replacements args front).result = .ok values) ∧
        ((o.withStrict false).replacements args (v :: back)).result = .error f := by
  simp only [render_result, outline_withStrict, Run.bind_result]
  cases hout : (o.outline template.toList args).result with
  | error g =>
      refine ⟨fun _ h => (by cases h), fun _ _ h => (by cases h), fun f h => .inl h⟩
  | ok out =>
      simp only [ok_bind]
      rcases firstMissing_or args out.tags with hgiven | ⟨front, v, back, hfirst⟩
      · -- No tag is missing: the runs are equal.
        have hfill : ((o.withStrict true).fill args out).result =
            ((o.withStrict false).fill args out).result := by
          rw [fill_result, fill_result, replacements_given hgiven true false]
        rw [hfill]
        refine ⟨fun _ h => h, fun output f h h' => ?_, fun f h => .inl h⟩
        rw [h] at h'
        cases h'
      · rcases fill_firstMissing (o := o) hfirst with ⟨g, hstrict, hlenient⟩ |
          ⟨hstrict, values, hvalues, hlenient⟩
        · -- A tag in front of the missing one fails in both.
          rw [hstrict, hlenient]
          exact ⟨fun _ h => (by cases h), fun _ _ h => (by cases h), fun f h => .inl h⟩
        · rw [hstrict]
          refine ⟨fun _ h => (by cases h), fun output f _ h => ?_, fun f h => .inr ?_⟩
          · cases h
            exact ⟨out, front, v, back, rfl, hfirst, rfl⟩
          · refine ⟨out, front, v, back, rfl, hfirst, rfl, ⟨values, hvalues⟩, hlenient f ?_⟩
            cases hfill : ((o.withStrict false).fill args out).result with
            | error g =>
                rw [hfill] at h
                cases h
                rfl
            | ok output =>
                rw [hfill] at h
                cases h

end Stencil.Options
