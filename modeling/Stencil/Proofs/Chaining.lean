import Stencil.Template.Trace

/-!
# Chaining outcomes and runs

An outcome that depends on another is taken apart at the place where the two
meet: it is an answer exactly if the first is one and what follows it is one.
Runs obey the laws of chaining as well, notes included, so a long run may be
regrouped freely.
-/

namespace Stencil

/-! ## Outcomes -/

section

variable {ε α β : Type}

@[simp] theorem ok_bind (a : α) (f : α → Except ε β) : (Except.ok a >>= f) = f a := rfl

@[simp] theorem error_bind (e : ε) (f : α → Except ε β) :
    ((Except.error e : Except ε α) >>= f) = .error e := rfl

theorem bind_eq_ok {x : Except ε α} {f : α → Except ε β} {b : β} :
    (x >>= f) = .ok b ↔ ∃ a, x = .ok a ∧ f a = .ok b := by
  cases x with
  | error e => simp
  | ok a => simp

theorem bind_eq_error {x : Except ε α} {f : α → Except ε β} {e : ε} :
    (x >>= f) = .error e ↔ x = .error e ∨ ∃ a, x = .ok a ∧ f a = .error e := by
  cases x with
  | error e' => simp
  | ok a => simp

theorem map_eq_error {x : Except ε α} {f : α → β} {e : ε} :
    x.map f = .error e ↔ x = .error e := by
  cases x with
  | error e' => simp [Except.map]
  | ok a => simp [Except.map]

theorem map_eq_ok {x : Except ε α} {f : α → β} {b : β} :
    x.map f = .ok b ↔ ∃ a, x = .ok a ∧ f a = b := by
  cases x with
  | error e => simp [Except.map]
  | ok a => simp [Except.map]

theorem mapM_eq_pure_map {m : Type → Type} [Monad m] [LawfulMonad m] {f : α → m β} {g : α → β} :
    ∀ {as : List α}, (∀ a ∈ as, f a = pure (g a)) → as.mapM f = pure (as.map g) := by
  intro as
  induction as with
  | nil => intro _; exact List.mapM_nil
  | cons a as ih =>
      intro h
      obtain ⟨ha, hrest⟩ := List.forall_mem_cons.1 h
      rw [List.mapM_cons, ha, ih hrest, pure_bind, pure_bind, List.map_cons]

theorem mapM_eq_ok_map {f : α → Except ε β} {g : α → β} {as : List α}
    (h : ∀ a ∈ as, f a = .ok (g a)) : as.mapM f = .ok (as.map g) := mapM_eq_pure_map h

/-- What a list of outcomes gives comes from its items. -/
theorem mem_of_mapM_eq_ok {f : α → Except ε β} {b : β} : ∀ {as : List α} {bs : List β},
    as.mapM f = .ok bs → b ∈ bs → ∃ a ∈ as, f a = .ok b := by
  intro as
  induction as with
  | nil => intro bs h hb; cases h; cases hb
  | cons a as ih =>
      intro bs h hb
      rw [List.mapM_cons] at h
      obtain ⟨c, hc, h⟩ := bind_eq_ok.1 h
      obtain ⟨cs, hcs, h⟩ := bind_eq_ok.1 h
      cases h
      cases hb with
      | head => exact ⟨a, by simp, hc⟩
      | tail _ hmem =>
          obtain ⟨a', ha', hf⟩ := ih hcs hmem
          exact ⟨a', by simp [ha'], hf⟩

/-- A list of outcomes fails as the first of them that does. -/
theorem mapM_eq_error {f : α → Except ε β} {e : ε} : ∀ {as : List α},
    as.mapM f = .error e ↔ ∃ front a back, as = front ++ a :: back ∧
      (∀ b ∈ front, ∃ c, f b = .ok c) ∧ f a = .error e := by
  intro as
  induction as with
  | nil =>
      refine ⟨fun h => (by cases h), ?_⟩
      rintro ⟨front, a, back, hsplit, _⟩
      simp at hsplit
  | cons a as ih =>
      rw [List.mapM_cons, bind_eq_error]
      constructor
      · rintro (ha | ⟨b, hb, h⟩)
        · exact ⟨[], a, as, rfl, by simp, ha⟩
        · rcases bind_eq_error.1 h with hrest | ⟨bs, _, h⟩
          · obtain ⟨front, a', back, rfl, hfront, ha'⟩ := ih.1 hrest
            exact ⟨a :: front, a', back, rfl, List.forall_mem_cons.2 ⟨⟨b, hb⟩, hfront⟩, ha'⟩
          · cases h
      · rintro ⟨front, a', back, hsplit, hfront, ha'⟩
        cases front with
        | nil =>
            cases hsplit
            exact .inl ha'
        | cons b front =>
            cases hsplit
            obtain ⟨⟨c, hc⟩, hfront⟩ := List.forall_mem_cons.1 hfront
            have hrest := ih.2 ⟨front, a', back, rfl, hfront, ha'⟩
            exact .inr ⟨c, hc, bind_eq_error.2 (.inl hrest)⟩

/-- What every step keeps holds at the end if it held at the start. -/
theorem foldlM_keeps {f : β → α → Except ε β} {P : β → Prop}
    (hkeep : ∀ b a b', f b a = .ok b' → P b → P b') : ∀ {as : List α} {b b' : β},
    as.foldlM f b = .ok b' → P b → P b' := by
  intro as
  induction as with
  | nil => intro b b' h hb; cases h; exact hb
  | cons a as ih =>
      intro b b' h hb
      rw [List.foldlM_cons] at h
      obtain ⟨c, hc, h⟩ := bind_eq_ok.1 h
      exact ih h (hkeep b a c hc hb)

/-- What one step brings about and every step keeps holds at the end. -/
theorem foldlM_brings {f : β → α → Except ε β} {P : β → Prop} {a : α}
    (hkeep : ∀ b a b', f b a = .ok b' → P b → P b') (hbring : ∀ b b', f b a = .ok b' → P b') :
    ∀ {as : List α} {b b' : β}, a ∈ as → as.foldlM f b = .ok b' → P b' := by
  intro as
  induction as with
  | nil => intro b b' ha; cases ha
  | cons x as ih =>
      intro b b' ha h
      rw [List.foldlM_cons] at h
      obtain ⟨c, hc, hrest⟩ := bind_eq_ok.1 h
      rcases List.mem_cons.1 ha with rfl | ha
      · exact foldlM_keeps hkeep hrest (hbring b c hc)
      · exact ih ha hrest

/-- If the outcome is a failure, it is one of the given ones. -/
def FailsOnly (P : ε → Prop) (x : Except ε α) : Prop := ∀ e, x = .error e → P e

variable {P Q : ε → Prop}

theorem FailsOnly.ok (a : α) : FailsOnly P (.ok a : Except ε α) := by
  rintro e ⟨⟩

theorem FailsOnly.error {e : ε} (h : P e) : FailsOnly P (.error e : Except ε α) := by
  rintro _ ⟨⟩
  exact h

theorem FailsOnly.imp {x : Except ε α} (hx : FailsOnly P x) (h : ∀ e, P e → Q e) :
    FailsOnly Q x := fun e he => h e (hx e he)

theorem FailsOnly.ite {c : Prop} [Decidable c] {x y : Except ε α} (hx : FailsOnly P x)
    (hy : FailsOnly P y) : FailsOnly P (if c then x else y) := by
  split
  · exact hx
  · exact hy

theorem FailsOnly.bind {x : Except ε α} {f : α → Except ε β} (hx : FailsOnly P x)
    (hf : ∀ a, x = .ok a → FailsOnly P (f a)) : FailsOnly P (x >>= f) := by
  cases x with
  | error e => exact .error (hx e rfl)
  | ok a => exact hf a rfl

theorem FailsOnly.map {x : Except ε α} (hx : FailsOnly P x) (f : α → β) :
    FailsOnly P (x.map f) := by
  cases x with
  | error e => exact .error (hx e rfl)
  | ok a => exact .ok (f a)

theorem FailsOnly.mapError {ε' : Type} {Q : ε' → Prop} {x : Except ε α} {f : ε → ε'}
    (hx : FailsOnly P x) (hf : ∀ e, P e → Q (f e)) : FailsOnly Q (x.mapError f) := by
  cases x with
  | error e => exact .error (hf e (hx e rfl))
  | ok a => exact .ok a

theorem FailsOnly.mapM {f : α → Except ε β} : ∀ {as : List α}, (∀ a ∈ as, FailsOnly P (f a)) →
    FailsOnly P (as.mapM f) := by
  intro as
  induction as with
  | nil => intro _; exact .ok []
  | cons a as ih =>
      intro h
      rw [List.mapM_cons]
      refine (h a List.mem_cons_self).bind fun b _ => ?_
      exact (ih fun a' ha' => h a' (List.mem_cons_of_mem a ha')).bind fun bs _ => .ok _

/-- A list of outcomes that can only fail in one way fails if any of them
does. -/
theorem FailsOnly.mapM_eq_error {f : α → Except ε β} {e : ε} (hf : ∀ a, FailsOnly (· = e) (f a)) :
    ∀ {as : List α}, as.mapM f = .error e ↔ ∃ a ∈ as, f a = .error e := by
  intro as
  induction as with
  | nil =>
      refine ⟨fun h => (by cases h), ?_⟩
      rintro ⟨a, ha, _⟩
      cases ha
  | cons a as ih =>
      rw [List.mapM_cons]
      cases ha : f a with
      | error e' =>
          have he : e' = e := hf a e' ha
          exact ⟨fun _ => ⟨a, List.mem_cons_self, by rw [ha, he]⟩, fun _ => by rw [he]; rfl⟩
      | ok b =>
          have hrest : ((as.mapM f) >>= fun bs => (Pure.pure (b :: bs) : Except ε (List β))) =
              .error e ↔ as.mapM f = .error e := by
            cases as.mapM f <;> simp [Pure.pure, Except.pure]
          rw [ok_bind, hrest, ih]
          simp [ha]

theorem FailsOnly.foldlM {f : β → α → Except ε β} : ∀ {as : List α} {b : β},
    (∀ a ∈ as, ∀ b, FailsOnly P (f b a)) → FailsOnly P (as.foldlM f b) := by
  intro as
  induction as with
  | nil => intro b _; exact .ok b
  | cons a as ih =>
      intro b h
      rw [List.foldlM_cons]
      refine (h a List.mem_cons_self b).bind fun b' _ => ?_
      exact ih fun a' ha' => h a' (List.mem_cons_of_mem a ha')

/-- A failure is one of the given ones, and a value is one of the given ones. -/
def Yields (P : ε → Prop) (Q : α → Prop) : Except ε α → Prop
  | .error e => P e
  | .ok a => Q a

theorem Yields.failsOnly {Q : α → Prop} {x : Except ε α} (h : Yields P Q x) : FailsOnly P x := by
  rintro e rfl
  exact h

theorem Yields.of_eq_ok {Q : α → Prop} {x : Except ε α} {a : α} (h : Yields P Q x)
    (hx : x = .ok a) : Q a := by
  rw [hx] at h
  exact h

theorem FailsOnly.yields {R : α → Prop} {x : Except ε α} (hx : FailsOnly P x)
    (h : ∀ a, x = .ok a → R a) : Yields P R x := by
  cases x with
  | error e => exact hx e rfl
  | ok a => exact h a rfl

theorem Yields.imp {R S : α → Prop} {x : Except ε α} (hx : Yields P R x) (he : ∀ e, P e → Q e)
    (ha : ∀ a, R a → S a) : Yields Q S x := by
  cases x with
  | error e => exact he e hx
  | ok a => exact ha a hx

theorem Yields.bind {R : α → Prop} {S : β → Prop} {x : Except ε α} {f : α → Except ε β}
    (hx : Yields P R x) (hf : ∀ a, R a → Yields P S (f a)) : Yields P S (x >>= f) := by
  cases x with
  | error e => exact hx
  | ok a => exact hf a hx

theorem Yields.after {S : β → Prop} {x : Except ε α} {f : α → Except ε β} (hx : FailsOnly P x)
    (hf : ∀ a, x = .ok a → Yields P S (f a)) : Yields P S (x >>= f) := by
  cases x with
  | error e => exact hx e rfl
  | ok a => exact hf a rfl

theorem Yields.ite {R : α → Prop} {c : Prop} [Decidable c] {x y : Except ε α}
    (hx : Yields P R x) (hy : Yields P R y) : Yields P R (if c then x else y) := by
  split
  · exact hx
  · exact hy

theorem Yields.map {R : α → Prop} {S : β → Prop} {x : Except ε α} {f : α → β}
    (hx : Yields P R x) (hf : ∀ a, R a → S (f a)) : Yields P S (x.map f) := by
  cases x with
  | error e => exact hx
  | ok a => exact hf a hx

theorem Yields.mapError {ε' : Type} {Q : ε' → Prop} {R : α → Prop} {x : Except ε α} {f : ε → ε'}
    (hx : Yields P R x) (hf : ∀ e, P e → Q (f e)) : Yields Q R (x.mapError f) := by
  cases x with
  | error e => exact hf e hx
  | ok a => exact hx

theorem Yields.mapM {R : β → Prop} {f : α → Except ε β} : ∀ {as : List α},
    (∀ a ∈ as, Yields P R (f a)) → Yields P (fun bs => ∀ b ∈ bs, R b) (as.mapM f) := by
  intro as
  induction as with
  | nil => intro _ b hb; cases hb
  | cons a as ih =>
      intro h
      rw [List.mapM_cons]
      refine (h a List.mem_cons_self).bind fun b hb => ?_
      refine (ih fun a' ha' => h a' (List.mem_cons_of_mem a ha')).bind fun bs hbs => ?_
      exact List.forall_mem_cons.2 ⟨hb, hbs⟩

end

/-! ## Runs -/

namespace Run

variable {α β : Type}

@[ext] theorem ext {r s : Run α} (hevents : r.events = s.events) (hresult : r.result = s.result) :
    r = s := by
  cases r
  cases s
  simp_all

theorem map_id (r : Run α) : id <$> r = r := by
  cases r with
  | mk events result => cases result <;> simp [Functor.map, bind, Run.pure]

theorem pure_then (a : α) (f : α → Run β) : (Pure.pure a >>= f) = f a := by
  show Run.bind (Run.pure a) f = f a
  simp [Run.bind, Run.pure]

theorem then_then {γ : Type} (r : Run α) (f : α → Run β) (g : β → Run γ) :
    r >>= f >>= g = r >>= fun a => f a >>= g := by
  show Run.bind (Run.bind r f) g = Run.bind r fun a => Run.bind (f a) g
  cases r with
  | mk events result =>
      cases result with
      | error e => rfl
      | ok a =>
          simp only [Run.bind]
          cases (f a).result with
          | error e => rfl
          | ok b => simp

instance : LawfulMonad Run := LawfulMonad.mk' Run map_id pure_then then_then

/-- What follows a run only matters for the value that the run gives. -/
theorem bind_congr {r : Run α} {f g : α → Run β} (h : ∀ a, r.result = .ok a → f a = g a) :
    (r >>= f) = r >>= g := by
  show Run.bind r f = Run.bind r g
  cases hr : r.result with
  | error e => simp only [Run.bind, hr]
  | ok a => simp only [Run.bind, hr, h a hr]

/-! ### Outcomes of runs -/

@[simp] theorem pure_result (a : α) : (Pure.pure a : Run α).result = .ok a := rfl

@[simp] theorem bind_result (r : Run α) (f : α → Run β) :
    (r >>= f).result = r.result >>= fun a => (f a).result := by
  show (Run.bind r f).result = _
  rw [Run.bind]
  cases r.result <;> rfl

@[simp] theorem map_result (f : α → β) (r : Run α) : (f <$> r).result = r.result.map f := by
  rw [map_eq_pure_bind, bind_result]
  cases r.result <;> rfl

@[simp] theorem map_events (f : α → β) (r : Run α) : (f <$> r).events = r.events := by
  rw [map_eq_pure_bind]
  show (Run.bind r fun a => Run.pure (f a)).events = r.events
  rw [Run.bind]
  cases r.result with
  | error e => rfl
  | ok a => exact List.append_nil _

@[simp] theorem ofExcept_result (x : Except Failure α) : (ofExcept x).result = x := rfl

@[simp] theorem note_result (e : Event) : (note e).result = .ok () := rfl

@[simp] theorem ofExcept_ok (a : α) : ofExcept (.ok a) = (Pure.pure a : Run α) := rfl

end Run

end Stencil
