import Stencil.Failure
import Stencil.Number.Numeral
import Stencil.Value.Basic

/-!
# Literals

Values as they are written inside a tag. A text in quotes stands for itself without the quotes; the
words `true`, `false` and `null` and the two shapes of numbers stand for what they say; everything
else is text. The same rule is used for defaults, for operands of conditions and for the arguments
of filters, so a literal means one thing wherever it stands.
-/

namespace Stencil.Literal

open Stencil.Text

/-- The text inside a pair of quotes, single or double. -/
def unquoted? (cs : List Char) : Option (List Char) :=
  match cs with
  | q :: rest =>
      if (q = '"' ∨ q = '\'') ∧ rest.getLast? = some q then some rest.dropLast else none
  | [] => none

/-- The value that a text stands for. It is refused only if it spells a whole number with too many
digits. -/
def read (cs : List Char) : Except Failure Value :=
  match unquoted? cs with
  | some inner => .ok (Value.ofChars inner)
  | none =>
      if cs = "true".toList then .ok (.bool true)
      else if cs = "false".toList then .ok (.bool false)
      else if cs = "null".toList then .ok .null
      else if Numeral.isPointed cs then .ok (.float (Numeral.pointedValue cs))
      else if Numeral.isWhole cs then
        match Numeral.wholeValue? cs with
        | some n => .ok (.int n)
        | none => .error .badValue
      else .ok (Value.ofChars cs)

/-! ## Arguments of filters -/

def isQuote (c : Char) : Bool := c == '\'' || c == '"' || c == '\x60'

/-- The value of one filter argument. Quotes left over at the ends of a text are dropped. -/
def readArgument (cs : List Char) : Except Failure Value := do
  match ← read (trim cs) with
  | .str s => .ok (Value.ofChars (trimWhile isQuote s.toList))
  | v => .ok v

/-- The arguments from a place on, where `quote` is the quotation that is open there and `current`
holds the argument read so far, last character first. -/
def splitFrom (quote : Option Char) (current : List Char) : List Char → List (List Char)
  | [] => if current.isEmpty then [] else [trim current.reverse]
  | c :: cs =>
      match quote with
      | none =>
          if isQuote c then splitFrom (some c) (c :: current) cs
          else if c = ',' then trim current.reverse :: splitFrom none [] cs
          else splitFrom none (c :: current) cs
      | some q =>
          if c = q then splitFrom none (c :: current) cs else splitFrom (some q) (c :: current) cs

/-- The arguments between the commas that are outside of quotations, without the blanks around them.
Nothing behind the last comma is no argument. -/
def splitArguments (cs : List Char) : List (List Char) := splitFrom none [] cs

end Stencil.Literal
