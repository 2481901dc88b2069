import Stencil.Failure
import Stencil.JsonPath.Basic
import Stencil.Value.Equality

/-!
# Finding the parts of a value

A path finds places, in order: values together with the places they were found in. What has no
fields or no items has none to be found; only asking for items of a number or a date is refused.
-/

namespace Stencil.JsonPath

/-- A place: a value and the place it was found in. Above the value that the search began with there
is no place. -/
inductive Place
  | nowhere
  | inside (v : Value) (within : Place)

namespace Place

def value : Place → Value
  | nowhere => .null
  | inside v _ => v

/-- The place that a place was found in. -/
def within : Place → Place
  | nowhere => nowhere
  | inside _ p => p

/-- The place of the value that the search began with. -/
def outermost : Place → Place
  | nowhere => inside .null nowhere
  | inside v nowhere => inside v nowhere
  | inside _ p => p.outermost

end Place

/-! ## Fields and items -/

/-- The places of the values under some keys. -/
def findFields (names : List String) (p : Place) : List Place :=
  match p.value with
  | .mapping entries =>
      if names.contains "*" then entries.map fun e => .inside e.2 p
      else names.filterMap fun name =>
        (Value.lookup? (.str name) entries).map fun v => .inside v p
  | _ => []

/-- The place `n` of `size` places, counted from the end if negative. -/
def fromEnd? (size : Nat) (n : Int) : Option Nat :=
  if 0 ≤ n then (if n.toNat < size then some n.toNat else none)
  else if 0 ≤ n + size then some (n + size).toNat else none

/-- The item at one place of a value that is not empty; none if there are not so many. -/
def item? (v : Value) (n : Int) : Except Failure (Option Value) :=
  let pick := fun {α : Type} (xs : List α) (toValue : α → Value) =>
    if (xs.length : Int) ≤ n then .ok none
    else match (fromEnd? xs.length n).bind fun i => xs[i]? with
      | some x => .ok (some (toValue x))
      | none => .error .noIndex
  match v with
  | .list xs | .tuple xs => pick xs id
  | .str s => pick s.toList fun c => Value.ofChars [c]
  | .bytes bs => pick bs fun b => .int b.toNat
  | .mapping entries =>
      if (entries.length : Int) ≤ n then .ok none
      else match Value.lookup? (.int n) entries with
        | some x => .ok (some x)
        | none => .error .noKey
  | .set xs | .fixedSet xs =>
      if (xs.length : Int) ≤ n then .ok none else .error .wrongType
  | _ => .error .wrongType

def findItems (p : Place) : List Int → Except Failure (List Place)
  | [] => .ok []
  | n :: ns =>
      if !p.value.isTruthy then .ok []
      else do
        match ← item? p.value n with
        | some v => .ok (.inside v p :: (← findItems p ns))
        | none => findItems p ns

/-- The places of a slice of `size` places; refused if it makes no steps. -/
def sliceOf (size : Nat) (start stop step : Option Int) : Except Failure (List Nat) :=
  let step := step.getD 1
  if step = 0 then .error .badValue
  else
    let lower : Int := if step < 0 then -1 else 0
    let upper : Int := if step < 0 then size - 1 else size
    let bound := fun (n : Int) => if n < 0 then max (n + size) lower else min n upper
    let from1 := (start.map bound).getD (if step < 0 then upper else lower)
    let upTo := (stop.map bound).getD (if step < 0 then lower else upper)
    let count :=
      if step < 0 then (from1 - upTo - step - 1) / -step else (upTo - from1 + step - 1) / step
    .ok ((List.range count.toNat).map fun (i : Nat) => (from1 + step * (i : Int)).toNat)

/-- The places of the items of a slice. A mapping, a text and a whole number count as the list of
just that value. -/
def findSlice (start stop step : Option Int) (p : Place) : Except Failure (List Place) :=
  let pick := fun (p : Place) (xs : List Value) => do
    let places ← sliceOf xs.length start stop step
    .ok ((places.filterMap fun i => xs[i]?).map fun v => .inside v p)
  if !p.value.isTruthy then .ok []
  else match p.value with
    | .list xs | .tuple xs => pick p xs
    | .bytes bs => pick p (bs.map fun b => .int b.toNat)
    | .mapping _ | .str _ | .int _ | .bool _ => pick (.inside (.list [p.value]) p.within) [p.value]
    | .set xs | .fixedSet xs => do
        if (← sliceOf xs.length start stop step).isEmpty then .ok [] else .error .wrongType
    | _ => .error .wrongType

/-! ## Everywhere inside -/

mutual

/-- What `find` finds at a value and at every value inside of it. -/
def everywhere (find : Place → Except Failure (List Place)) (within : Place) :
    Value → Except Failure (List Place)
  | .list xs => do
      let here := Place.inside (.list xs) within
      .ok ((← find here) ++ (← everywhereInItems find here xs))
  | .mapping entries => do
      let here := Place.inside (.mapping entries) within
      .ok ((← find here) ++ (← everywhereInEntries find here entries))
  | v => find (.inside v within)

def everywhereInItems (find : Place → Except Failure (List Place)) (within : Place) :
    List Value → Except Failure (List Place)
  | [] => .ok []
  | x :: xs => do .ok ((← everywhere find within x) ++ (← everywhereInItems find within xs))

def everywhereInEntries (find : Place → Except Failure (List Place)) (within : Place) :
    List (Value × Value) → Except Failure (List Place)
  | [] => .ok []
  | (_, v) :: rest => do
      .ok ((← everywhere find within v) ++ (← everywhereInEntries find within rest))

end

/-! ## Paths -/

def find : JsonPath → Place → Except Failure (List Place)
  | .root, p => .ok [p.outermost]
  | .this, p => .ok [.inside p.value p.within]
  | .parent, p => .ok [p.within]
  | .fields names, p => .ok (findFields names p)
  | .index places, p => findItems p places
  | .slice start stop step, p => findSlice start stop step p
  | .child a b, p => do .ok (← (← find a p).mapM (find b)).flatten
  | .descendants a b, p => do
      let starts ← find a p
      let found ← starts.mapM fun
        | .nowhere => do
            let _ ← find b .nowhere
            .error .noAttribute
        | .inside v within => everywhere (find b) within v
      .ok found.flatten
  | .union a b, p => do .ok ((← find a p) ++ (← find b p))
  | .having a b, p => do
      (← find a p).filterM fun q => do .ok !(← find b q).isEmpty
  | .lacking a b, p => do
      (← find a p).filterM fun q => do .ok (← find b q).isEmpty

/-- What a path finds in a value: null if it finds nothing, the value if it finds one, else the list
of the values. -/
def select (path : JsonPath) (v : Value) : Except Failure Value := do
  let values ← (← find path (.inside v .nowhere)).mapM fun
    | .nowhere => .error .noAttribute
    | .inside v _ => .ok v
  match values with
  | [] => .ok .null
  | [v] => .ok v
  | vs => .ok (.list vs)

end Stencil.JsonPath
