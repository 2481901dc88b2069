import Stencil.Value.Display
import Stencil.Value.Equality

/-!
# The order of set elements

A set has no order of its own, so it is written in one that depends on its elements alone: their
natural order where all of them can be compared, else the order of their full notations.
-/

namespace Stencil

/-- The order of two lists by their first difference, the shorter one first. -/
def lexicographic {α : Type} (less : α → α → Bool) : List α → List α → Bool
  | _, [] => false
  | [], _ :: _ => true
  | x :: xs, y :: ys =>
      if less x y then true else if less y x then false else lexicographic less xs ys

namespace Value

mutual

/-- Whether the first value comes before the second; none if the two cannot be compared. -/
def less? : Value → Value → Option Bool
  | .str s, .str t => some (s < t)
  | .bytes b, .bytes c => some (lexicographic (· < ·) b c)
  | .date d, .date e => some (d.order e == .lt)
  | .moment m, .moment n => (m.order? n).map (· == .lt)
  | .tuple xs, .tuple ys => lessItems? xs ys
  | .list xs, .list ys => lessItems? xs ys
  | .set xs, b => b.elements?.map fun ys => xs.length < ys.length && allIn xs ys
  | .fixedSet xs, b => b.elements?.map fun ys => xs.length < ys.length && allIn xs ys
  | a, b =>
      match a.number?, b.number? with
      | some x, some y => some (x.compare? y == some .lt)
      | _, _ => none

/-- The same for lists, by their first items that differ. -/
def lessItems? : List Value → List Value → Option Bool
  | _, [] => some false
  | [], _ :: _ => some true
  | x :: xs, y :: ys => if same x y then lessItems? xs ys else less? x y

end

/-- Whether each of the items can be compared with every one behind it. -/
def areComparable : List Value → Bool
  | [] => true
  | x :: xs => (xs.all fun y => (less? x y).isSome && (less? y x).isSome) && areComparable xs

/-- The items in the order in which a set is written; none if they need their full notations and one
of them has none. -/
def inSetOrder? {α : Type} (value : α → Value) (items : List α) : Option (List α) :=
  if areComparable (items.map value) then
    some (items.mergeSort fun a b => !((less? (value b) (value a)).getD false))
  else do
    let keyed ← items.mapM fun a => do some ((← (value a).display?), a)
    some ((keyed.mergeSort fun a b => !(b.1 < a.1)).map (·.2))

end Value

end Stencil
