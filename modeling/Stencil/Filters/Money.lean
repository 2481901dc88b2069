import Stencil.Number.FixedPlaces
import Stencil.Text.Trim
import Stencil.Value.Rendering

/-!
# Amounts of money

An amount is a number, or a text that spells one once the symbol and the commas are taken out. It is
written with its symbol in front, two digits after the point and commas between groups of three
digits. What is no amount counts as zero.
-/

namespace Stencil.Money

open Stencil.Text

/-- The number that a text spells once the symbol and the commas are taken out. -/
def amount? (symbol cs : List Char) : Option Binary64 :=
  let cleaned := (if symbol.isEmpty then cs else replaceAll symbol [] cs).filter (· != ',')
  Numeral.readFloat? (trim cleaned)

/-- The text of an amount behind its symbol. -/
def written (x : Binary64) : String := String.ofList x.toGroupedHundredths

def currency (v symbol : Value) : Except Failure Value := do
  let sign ← match symbol.plain? with
    | some s => .ok s
    | none => .error .badValue
  let nothing := Value.str (sign ++ "0.00")
  match v with
  | .str s =>
      match symbol.str?.bind fun sym => amount? sym.toList s.toList with
      | some x => .ok (.str (sign ++ written x))
      | none => .ok nothing
  | .int n =>
      match Binary64.ofInt? n with
      | some x => .ok (.str (sign ++ written x))
      | none => .error .overflow
  | .float x => .ok (.str (sign ++ written x))
  | _ => .ok nothing

end Stencil.Money
