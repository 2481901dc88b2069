import Stencil.Value.Rendering

/-!
# Comparing values

A loose comparison brings two values to common ground: truth values if one of them is null or a
truth value, else numbers if both spell numbers, else their texts in the output. A strict comparison
asks for values of one sort that are the same.
-/

namespace Stencil.Value

open Stencil.Text

/-- The number that a value is or spells; truth values spell none. It is refused if a text spells a
whole number with too many digits. -/
def asNumber : Value → Except Failure (Option Number)
  | .int n => .ok (some (.whole n))
  | .float x => .ok (some (.floating x))
  | .str s =>
      let cs := trim s.toList
      if Numeral.isWhole cs then
        match Numeral.wholeValue? cs with
        | some n => .ok (some (.whole n))
        | none => .error .badValue
      else if Numeral.isPointed cs then .ok (some (.floating (Numeral.pointedValue cs)))
      else .ok none
  | _ => .ok none

/-- What two values are compared as. -/
inductive CommonGround
  | truth (a b : Bool)
  | numbers (a b : Number)
  | texts (a b : String)

/-- Null and truth values turn a comparison into one of truth values. -/
def comparesAsTruth : Value → Bool
  | .null | .bool _ => true
  | _ => false

def commonGround (a b : Value) : Except Failure CommonGround :=
  if a.comparesAsTruth || b.comparesAsTruth then .ok (.truth a.isTruthy b.isTruthy)
  else do
    let m ← a.asNumber
    let n ← b.asNumber
    match m, n with
    | some m, some n => .ok (.numbers m n)
    | _, _ => do
        let s ← a.render
        let t ← b.render
        .ok (.texts s t)

/-- The order on common ground; none if one side is not a number. -/
def CommonGround.order? : CommonGround → Option Ordering
  | .truth a b => some (compare a.toNat b.toNat)
  | .numbers m n => m.compare? n
  | .texts s t => some (if s < t then .lt else if t < s then .gt else .eq)

def looseEquals (a b : Value) : Except Failure Bool :=
  (commonGround a b).map fun g => g.order? == some .eq

/-- The loose order: -1, 0 or 1, and 0 also where one side is not a number. -/
def looseCompare (a b : Value) : Except Failure Int :=
  (commonGround a b).map fun g =>
    match g.order? with
    | some .lt => -1
    | some .gt => 1
    | _ => 0

def strictEquals (a b : Value) : Bool := sameShape a b && same a b

end Stencil.Value
