import Stencil.Text.Trim
import Stencil.Value.Rendering

/-!
# Cutting text

A text is cut to a length, or freed of some characters at its ends.
-/

namespace Stencil.Cutting

open Stencil.Text

/-! ## Cutting to a length -/

/-- The whole number that an argument gives: a number without what is behind its point, or a text
that spells a whole number. -/
def wholeNumber : Value → Except Failure Int
  | .bool b => .ok b.toNat
  | .int n => .ok n
  | .float x =>
      match x with
      | .infinite _ => .error .overflow
      | x => match x.truncate? with
          | some n => .ok n
          | none => .error .badValue
  | .str s =>
      match Numeral.readInt? s.toList with
      | some n => .ok n
      | none => .error .badValue
  | _ => .error .wrongType

/-- The first `n` characters, or all but the last `-n` if `n` is negative. -/
def takeSigned (n : Int) (cs : List Char) : List Char :=
  if 0 ≤ n then cs.take n.toNat else cs.take (cs.length - n.natAbs)

/-- A text that is longer than `limit` cut to it, with the ending put behind. -/
def truncate (v limit ending : Value) : Except Failure Value := do
  let cs ← v.renderChars
  let n ← wholeNumber limit
  if (cs.length : Int) ≤ n then .ok (Value.ofChars cs)
  else do .ok (Value.ofChars (takeSigned n cs ++ (← ending.renderChars)))

/-! ## Freeing the ends -/

/-- The characters that are taken away where none are named. -/
def usual : Value := .str " \n\r\t\x0b\x00"

/-- The class of characters that an argument names: those of a text, or the blanks if it is null. -/
def classOf : Value → Except Failure (Char → Bool)
  | .null => .ok isBlank
  | .str s => .ok fun c => s.toList.contains c
  | _ => .error .wrongType

/-- A text without some characters at its left end, its right end or both. -/
def trim (v side characters : Value) : Except Failure Value := do
  let cs ← v.renderChars
  let p ← classOf characters
  .ok (Value.ofChars
    (if side.same (.str "left") then cs.dropWhile p
    else if side.same (.str "right") then dropEndWhile p cs
    else trimWhile p cs))

end Stencil.Cutting
