import Mathlib.Data.String.Basic
import Stencil.Proofs.Number.Order
import Stencil.Proofs.Value.Faults

/-!
# The loose order of values

Two single values are compared as truth values, as numbers or as texts, and
which of these it is does not depend on their order. Each of the three is a
total order, so a comparison that is not refused has one of three answers,
and the comparison the other way round has the opposite one. Values that are
strictly the same are loosely equal, with one exception: a moment is the same
in every zone, and its text is not.
-/

namespace Stencil.Value

open Stencil.Text

/-- A value that is not made of others, and a number if it is a floating one. -/
structure IsSingle (v : Value) : Prop where
  plain : v.isStructured = false
  number : v ≠ .float .nan

/-! ## Common ground -/

theorem asNumber_ne_nan {v : Value} {m : Number} (hv : v ≠ .float .nan)
    (h : v.asNumber = .ok (some m)) : m ≠ .floating .nan := by
  rintro rfl
  cases v with
  | float x =>
      cases h
      exact hv rfl
  | str s =>
      simp only [asNumber] at h
      split at h
      · split at h <;> cases h
      · split at h
        · simp [Numeral.pointedValue_ne_nan] at h
        · cases h
  | _ => cases h

/-- What two values are compared as, the other way round. -/
def CommonGround.turn : CommonGround → CommonGround
  | .truth a b => .truth b a
  | .numbers m n => .numbers n m
  | .texts s t => .texts t s

theorem CommonGround.order?_turn (g : CommonGround) :
    g.turn.order? = g.order?.map Ordering.swap := by
  cases g with
  | truth a b => exact congrArg some Std.OrientedOrd.eq_swap
  | numbers m n => exact Number.compare?_swap m n
  | texts s t =>
      rcases lt_trichotomy s t with h | rfl | h
      · simp [turn, order?, h, h.not_gt]
      · simp [turn, order?]
      · simp [turn, order?, h, h.not_gt]

section

variable {a b : Value}

/-- Two refusals of single values are the same, so even a comparison that is
refused may be turned round. -/
theorem commonGround_turn (ha : a.isStructured = false) (hb : b.isStructured = false) :
    commonGround b a = (commonGround a b).map CommonGround.turn := by
  have hrefused : ∀ {α β : Type} {x : Except Failure α} {y : Except Failure β} {e e' : Failure},
      FailsOnly (· = .badValue) x → FailsOnly (· = .badValue) y → x = .error e → y = .error e' →
        e = e' := fun hx hy hxe hye => (hx _ hxe).trans (hy _ hye).symm
  rw [commonGround, commonGround, Bool.or_comm]
  split
  · rfl
  · cases hm : a.asNumber with
    | error e =>
        cases hn : b.asNumber with
        | error e' => rw [hrefused (asNumber_refused a) (asNumber_refused b) hm hn]; rfl
        | ok n => rfl
    | ok m =>
        cases hn : b.asNumber with
        | error e => rfl
        | ok n =>
            have htexts : (do
                let t ← b.render
                let s ← a.render
                Except.ok (CommonGround.texts t s)) = (do
                let s ← a.render
                let t ← b.render
                Except.ok (CommonGround.texts s t)).map CommonGround.turn := by
              cases hs : a.render with
              | error e =>
                  cases ht : b.render with
                  | error e' => rw [hrefused (render_refused ha) (render_refused hb) hs ht]; rfl
                  | ok t => rfl
              | ok s => cases b.render <;> rfl
            cases m with
            | none => cases n <;> exact htexts
            | some m =>
                cases n with
                | none => exact htexts
                | some n => rfl

/-- Single values that can be compared have an order. -/
theorem commonGround_order {g : CommonGround} (ha : a.IsSingle) (hb : b.IsSingle)
    (h : commonGround a b = .ok g) : ∃ o, g.order? = some o := by
  rw [commonGround] at h
  split at h
  · cases h
    exact ⟨_, rfl⟩
  · obtain ⟨m, hm, h⟩ := bind_eq_ok.1 h
    obtain ⟨n, hn, h⟩ := bind_eq_ok.1 h
    split at h
    · cases h
      exact Option.isSome_iff_exists.1
        (Number.compare?_isSome (asNumber_ne_nan ha.number hm) (asNumber_ne_nan hb.number hn))
    · obtain ⟨s, _, h⟩ := bind_eq_ok.1 h
      obtain ⟨t, _, h⟩ := bind_eq_ok.1 h
      cases h
      exact ⟨_, rfl⟩

theorem commonGround_self {g : CommonGround} (ha : a.IsSingle) (h : commonGround a a = .ok g) :
    g.order? = some .eq := by
  rw [commonGround] at h
  split at h
  · cases h
    exact congrArg some Std.ReflOrd.compare_self
  · obtain ⟨m, hm, h⟩ := bind_eq_ok.1 h
    rw [hm, ok_bind] at h
    cases m with
    | none =>
        obtain ⟨s, hs, h⟩ := bind_eq_ok.1 h
        rw [hs, ok_bind] at h
        cases h
        simp [CommonGround.order?]
    | some m =>
        cases h
        exact Number.compare?_self (asNumber_ne_nan ha.number hm)

/-! ## Strictly the same -/

/-- Values of one sort that are the same are one value, or numbers of one size,
or moments. -/
theorem eq_of_strictEquals (ha : a.isStructured = false) (h : a.strictEquals b = true) :
    a = b ∨ (∃ x y, a = .float x ∧ b = .float y ∧ x.compare? y = some .eq) ∨
      ∃ m, a = .moment m := by
  rw [strictEquals, Bool.and_eq_true] at h
  obtain ⟨hshape, hsame⟩ := h
  rw [sameShape, beq_iff_eq] at hshape
  cases a with
  | list _ | tuple _ | mapping _ | set _ | fixedSet _ => cases ha
  | moment m => exact .inr (.inr ⟨m, rfl⟩)
  | float x =>
      cases b with
      | float y =>
          have hcompare : x.compare? y = some .eq := by
            simpa [same, sameScalar, number?, Number.compare?] using hsame
          exact .inr (.inl ⟨x, y, rfl, rfl, hcompare⟩)
      | _ => simp [shape] at hshape
  | bool p =>
      cases b with
      | bool q => cases p <;> cases q <;> simp_all [same, sameScalar, number?, Number.compare?]
      | _ => simp [shape] at hshape
  | _ =>
      left
      cases b <;> simp_all [shape, same, sameScalar, number?, Number.compare?]

/-- Values that are strictly the same are loosely equal, moments apart. -/
theorem commonGround_of_strictEquals {g : CommonGround} (ha : a.IsSingle)
    (hmoment : ∀ m, a ≠ .moment m) (hsame : a.strictEquals b = true)
    (h : commonGround a b = .ok g) : g.order? = some .eq := by
  rcases eq_of_strictEquals ha.plain hsame with rfl | ⟨x, y, rfl, rfl, hcompare⟩ | ⟨m, rfl⟩
  · exact commonGround_self ha h
  · cases h
    exact hcompare
  · exact absurd rfl (hmoment m)

/-! ## Answers -/

/-- How an order is told: -1, 0 or 1. -/
def tell : Ordering → Int
  | .lt => -1
  | .eq => 0
  | .gt => 1

/-- Two values stand in an order if they have common ground and it gives that order. -/
def Stands (a b : Value) (o : Ordering) : Prop :=
  ∃ g, commonGround a b = .ok g ∧ g.order? = some o

variable {o : Ordering}

theorem Stands.looseEquals (h : Stands a b o) : a.looseEquals b = .ok (o == .eq) := by
  obtain ⟨g, hg, ho⟩ := h
  rw [Value.looseEquals, hg]
  simp [Except.map, ho]

theorem Stands.looseCompare (h : Stands a b o) : a.looseCompare b = .ok (tell o) := by
  obtain ⟨g, hg, ho⟩ := h
  rw [Value.looseCompare, hg]
  cases o <;> simp [Except.map, ho, tell]

theorem Stands.turn (h : Stands a b o) (ha : a.isStructured = false) (hb : b.isStructured = false) :
    Stands b a o.swap := by
  obtain ⟨g, hg, ho⟩ := h
  refine ⟨g.turn, ?_, ?_⟩
  · rw [commonGround_turn ha hb, hg]
    rfl
  · rw [g.order?_turn, ho]
    rfl

/-- A comparison that is not refused has found an order. -/
theorem stands_of_looseCompare {n : Int} (ha : a.IsSingle) (hb : b.IsSingle)
    (h : a.looseCompare b = .ok n) : ∃ o, Stands a b o := by
  obtain ⟨g, hg, _⟩ := map_eq_ok.1 h
  obtain ⟨o, ho⟩ := commonGround_order ha hb hg
  exact ⟨o, g, hg, ho⟩

theorem Stands.of_strictEquals (h : Stands a b o) (ha : a.IsSingle) (hmoment : ∀ m, a ≠ .moment m)
    (hsame : a.strictEquals b = true) : o = .eq := by
  obtain ⟨g, hg, ho⟩ := h
  have heq := commonGround_of_strictEquals ha hmoment hsame hg
  rw [ho] at heq
  exact Option.some.inj heq

/-- The answers of the operators that go by the order. -/
theorem Stands.holds (h : Stands a b o) :
    Comparison.less.holds a b = .ok (o == .lt) ∧ Comparison.greater.holds a b = .ok (o == .gt) ∧
      Comparison.equal.holds a b = .ok (o == .eq) ∧
      Comparison.atMost.holds a b = .ok (o == .lt || o == .eq) ∧
      Comparison.atLeast.holds a b = .ok (o == .gt || o == .eq) := by
  cases o <;> simp [Comparison.holds, h.looseCompare, h.looseEquals, Except.map, tell]

end

end Stencil.Value
