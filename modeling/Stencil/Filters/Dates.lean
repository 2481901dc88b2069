import Stencil.Calendar.Directive
import Stencil.Calendar.FreeForm.Reader
import Stencil.Calendar.LetterPattern
import Stencil.Value.Rendering

/-!
# Dates in a pattern

A text that is a date in any usual form is written in a pattern of letters; every other text is left
as it is.
-/

namespace Stencil.Dates

/-- The day that the missing parts of a date are taken from. -/
def reference : Date := ⟨2025, 1, 1⟩

def formatDate (v pattern : Value) : Except Failure Value := do
  let cs ← v.renderChars
  match FreeForm.read? reference cs with
  | none => .ok (Value.ofChars cs)
  | some m => do
      let letters ← pattern.renderChars
      .ok (Value.ofChars (← Directive.format m (LetterPattern.directives letters)))

end Stencil.Dates
