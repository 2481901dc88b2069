import Stencil.Number.Numeral
import Stencil.Value.Equality

/-!
# Numbers in order

Numbers are compared by their exact values, whole ones with floating ones as
well, so turning a comparison round turns its answer round, and whatever is a
number equals itself. Two numbers always have an order; the one floating
number that is none is left out of everything here, and no decimal is read as
it.
-/

namespace Stencil

namespace Binary64

variable {x y : Binary64}

theorem compare?_swap (x y : Binary64) : y.compare? x = (x.compare? y).map Ordering.swap := by
  cases x with
  | nan => cases y <;> rfl
  | infinite s =>
      cases y with
      | nan => rfl
      | infinite t => cases s <;> cases t <;> rfl
      | finite t n f => cases s <;> rfl
  | finite s m e =>
      cases y with
      | nan => rfl
      | infinite t => cases t <;> rfl
      | finite t n f =>
          simp only [compare?, Option.map_some, Int.min_comm f e]
          rw [Std.OrientedOrd.eq_swap (α := Int)]

theorem compare?_self (h : x ≠ .nan) : x.compare? x = some .eq := by
  cases x with
  | nan => exact absurd rfl h
  | infinite s => cases s <;> rfl
  | finite s m e => exact congrArg some Std.ReflOrd.compare_self

theorem compare?_isSome (hx : x ≠ .nan) (hy : y ≠ .nan) : (x.compare? y).isSome = true := by
  cases x with
  | nan => exact absurd rfl hx
  | infinite s =>
      cases y with
      | nan => exact absurd rfl hy
      | infinite t => rfl
      | finite t n f => rfl
  | finite s m e =>
      cases y with
      | nan => exact absurd rfl hy
      | infinite t => rfl
      | finite t n f => rfl

theorem compareInt?_isSome (hx : x ≠ .nan) (n : Int) : (x.compareInt? n).isSome = true := by
  cases x with
  | nan => exact absurd rfl hx
  | infinite s => rfl
  | finite s m e => rfl

theorem ofRatio_ne_nan (negative : Bool) (num den : Nat) : ofRatio negative num den ≠ .nan := by
  unfold ofRatio
  dsimp only
  repeat' split
  all_goals simp

theorem ofDecimal_ne_nan (negative : Bool) (digits : Nat) (exponent : Int) :
    ofDecimal negative digits exponent ≠ .nan := by
  have hratio := ofRatio_ne_nan negative
  unfold ofDecimal
  dsimp only
  repeat' split
  all_goals simp [hratio]

end Binary64

namespace Number

variable {m n : Number}

theorem compare?_swap (m n : Number) : n.compare? m = (m.compare? n).map Ordering.swap := by
  cases m with
  | whole a =>
      cases n with
      | whole b => exact congrArg some Std.OrientedOrd.eq_swap
      | floating y =>
          show y.compareInt? a = ((y.compareInt? a).map Ordering.swap).map Ordering.swap
          cases y.compareInt? a with
          | none => rfl
          | some o => cases o <;> rfl
  | floating x =>
      cases n with
      | whole b => rfl
      | floating y => exact x.compare?_swap y

theorem compare?_self (h : m ≠ .floating .nan) : m.compare? m = some .eq := by
  cases m with
  | whole a => exact congrArg some Std.ReflOrd.compare_self
  | floating x => exact Binary64.compare?_self fun hx => h (congrArg _ hx)

theorem compare?_isSome (hm : m ≠ .floating .nan) (hn : n ≠ .floating .nan) :
    (m.compare? n).isSome = true := by
  cases m with
  | whole a =>
      cases n with
      | whole b => rfl
      | floating y =>
          show ((y.compareInt? a).map Ordering.swap).isSome = true
          rw [Option.isSome_map]
          exact Binary64.compareInt?_isSome (fun hy => hn (congrArg _ hy)) a
  | floating x =>
      have hx : x ≠ .nan := fun hx => hm (congrArg _ hx)
      cases n with
      | whole b => exact Binary64.compareInt?_isSome hx b
      | floating y => exact Binary64.compare?_isSome hx fun hy => hn (congrArg _ hy)

end Number

theorem Numeral.pointedValue_ne_nan (cs : List Char) : pointedValue cs ≠ .nan :=
  Binary64.ofDecimal_ne_nan _ _ _

end Stencil
