/-!
# Paths into values

An expression that says which parts of a value to find. The simple paths are the whole value, the
fields of a mapping and the items of a list; the others combine two paths.
-/

namespace Stencil

inductive JsonPath
  /-- The value that the search began with. -/
  | root
  /-- The value at hand. -/
  | this
  /-- The value that the one at hand was found in. -/
  | parent
  /-- The values under some keys of a mapping; an asterisk is every key. -/
  | fields (names : List String)
  /-- The items at some places, counted from the end if negative. -/
  | index (places : List Int)
  /-- The items from a place up to another, in steps. -/
  | slice (start stop step : Option Int)
  /-- What the second path finds in what the first finds. -/
  | child (p q : JsonPath)
  /-- What the second path finds in what the first finds, and anywhere inside of it. -/
  | descendants (p q : JsonPath)
  | union (p q : JsonPath)
  /-- What the first path finds, where the second finds something in it. -/
  | having (p q : JsonPath)
  /-- What the first path finds, where the second finds nothing in it. -/
  | lacking (p q : JsonPath)
deriving DecidableEq, Repr

end Stencil
