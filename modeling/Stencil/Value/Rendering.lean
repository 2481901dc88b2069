import Stencil.Json.Writer

/-!
# The text of a value

What a value contributes to the output of a template. Null contributes nothing, a number without a
part after the point is written without the point, and what consists of other values is written as
compact JSON.
-/

namespace Stencil.Value

/-- A whole number as text, refused if it is too long. -/
def intText (n : Int) : Except Failure String :=
  match Numeral.intText? n with
  | some s => .ok s
  | none => .error .badValue

/-- The text of a value in the output. -/
def render : Value → Except Failure String
  | .null => .ok ""
  | .bool b => .ok (if b then "true" else "false")
  | .int n => intText n
  | .float x =>
      if x.isWhole then intText (x.truncate?.getD 0) else .ok x.toText
  | .str s => .ok s
  | .date d => .ok d.toText
  | .moment m => .ok m.toText
  | .bytes bs => .ok (Display.quotedBytes bs)
  | v => Json.describe v

def renderChars (v : Value) : Except Failure (List Char) := (render v).map String.toList

end Stencil.Value
