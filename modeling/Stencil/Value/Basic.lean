import Stencil.Calendar.Moment
import Stencil.Number.Binary64
import Stencil.Text.Utf8

/-!
# Values

What a variable of a template can stand for, and what a filter can return. A mapping keeps its
entries in the order in which their keys came first; a set is kept as the list of its elements.
-/

namespace Stencil

inductive Value where
  | null
  | bool (b : Bool)
  | int (n : Int)
  | float (x : Binary64)
  | str (s : String)
  | list (items : List Value)
  | tuple (items : List Value)
  | mapping (entries : List (Value × Value))
  | set (items : List Value)
  | fixedSet (items : List Value)
  | date (d : Date)
  | moment (m : Moment)
  | bytes (bs : Text.Bytes)
deriving Inhabited

/-- The arguments of a template: values by name. -/
abbrev Arguments := List (String × Value)

namespace Value

/-- A value that consists of other values. -/
def isStructured : Value → Bool
  | .list _ | .tuple _ | .mapping _ | .set _ | .fixedSet _ => true
  | _ => false

/-- The word for the sort of a value. -/
def shape : Value → String
  | .null => "NoneType"
  | .bool _ => "bool"
  | .int _ => "int"
  | .float _ => "float"
  | .str _ => "str"
  | .list _ => "list"
  | .tuple _ => "tuple"
  | .mapping _ => "dict"
  | .set _ => "set"
  | .fixedSet _ => "frozenset"
  | .date _ => "date"
  | .moment _ => "datetime"
  | .bytes _ => "bytes"

/-- Whether a value counts as true: anything but null, false, zero and what is empty. -/
def isTruthy : Value → Bool
  | .null => false
  | .bool b => b
  | .int n => n != 0
  | .float x => !x.isZero
  | .str s => !s.isEmpty
  | .list items | .tuple items | .set items | .fixedSet items => !items.isEmpty
  | .mapping entries => !entries.isEmpty
  | .bytes bs => !bs.isEmpty
  | .date _ | .moment _ => true

def str? : Value → Option String
  | .str s => some s
  | _ => none

def ofChars (cs : List Char) : Value := .str (String.ofList cs)

end Value

end Stencil
