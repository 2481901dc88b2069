import Stencil.Regex.Matcher
import Stencil.Template.Pattern
import Stencil.Text.Trim
import Stencil.Value.Literal

/-!
# Variable tags

A variable tag names an argument, and may bring a default for it and a filter with further
arguments.
-/

namespace Stencil

/-- A variable tag: its text, where it begins and ends, and its parts as they are written. -/
structure Variable where
  text : String
  start : Nat
  stop : Nat
  name : String
  default : Option String
  filter : Option String
  filterName : Option String
  filterArgs : Option String
deriving DecidableEq, Repr

namespace Variable

open Stencil.Text

/-- The tag that a match stands for. A syntax without a place for the name is refused. -/
def ofMatch (r : Regex) (m : Regex.Match) : Except Failure Variable :=
  let part := fun name => (m.group? name).map String.ofList
  if r.hasGroup "name" then
    .ok ⟨String.ofList m.text, m.start, m.stop, (part "name").getD "None", part "default",
      part "filter", part "filter_name", part "filter_args"⟩
  else .error .noKey

/-- The variable tags of a text from left to right. -/
def scan (p : Patterns) (cs : List Char) : Except Failure (List Variable) :=
  let r := p.variableTag.regex
  (r.allMatches cs).mapM (ofMatch r)

def hasDefault (v : Variable) : Bool := v.default.isSome

/-- The value of the default; nothing behind the equals sign is an empty text. -/
def defaultValue (v : Variable) : Except Failure Value :=
  match v.default with
  | none => .ok .null
  | some s => Literal.read (trim (s.toList.drop 1))

/-- The further arguments of the filter. -/
def arguments (v : Variable) : Except Failure (List Value) :=
  match v.filterArgs with
  | none => .ok []
  | some s => (Literal.splitArguments s.toList).mapM Literal.readArgument

end Variable

end Stencil
