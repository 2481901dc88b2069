import Stencil.Value.Rendering

/-!
# Filters for sequences

Lists and the values of mappings are sequences of items; every other value is taken as the sequence
of the characters of its text. Which item is chosen at random, and in which order items are
shuffled, is left open: here it is the first item and the order they have.
-/

namespace Stencil.Sequences

open Stencil.Value

inductive Sequence
  | items (xs : List Value)
  | chars (cs : List Char)

/-- The items of a list or the values of a mapping. -/
def items? : Value → Option (List Value)
  | .list xs | .tuple xs => some xs
  | .mapping entries => some (entries.map (·.2))
  | _ => none

def ofValue (v : Value) : Except Failure Sequence :=
  match items? v with
  | some xs => .ok (.items xs)
  | none => v.renderChars.map .chars

def first (v : Value) : Except Failure Value := do
  match ← ofValue v with
  | .items xs => .ok (xs.head?.getD .null)
  | .chars cs => .ok (ofChars (cs.take 1))

def last (v : Value) : Except Failure Value := do
  match ← ofValue v with
  | .items xs => .ok (xs.getLast?.getD .null)
  | .chars cs => .ok (ofChars (cs.drop (cs.length - 1)))

def length (v : Value) : Except Failure Value := do
  match ← ofValue v with
  | .items xs => .ok (.int xs.length)
  | .chars cs => .ok (.int cs.length)

def reverse (v : Value) : Except Failure Value := do
  match ← ofValue v with
  | .items xs => .ok (.list xs.reverse)
  | .chars cs => .ok (ofChars cs.reverse)

def choose (v : Value) : Except Failure Value := first v

/-- The items in some order. -/
def shuffle (v : Value) : Except Failure Value := do
  match ← ofValue v with
  | .items xs => .ok (.list xs)
  | .chars cs => .ok (ofChars cs)

end Stencil.Sequences
