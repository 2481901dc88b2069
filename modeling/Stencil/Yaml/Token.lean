import Stencil.Yaml.Cursor

/-!
# Tokens

What a document is made of. Indentation has become tokens that begin and end blocks, and the keys of
block mappings are marked as such.
-/

namespace Stencil.Yaml

inductive Token
  | version (major : Nat)
  | tagPrefix (handle lead : String)
  | otherDirective
  | documentStart
  | documentEnd
  | streamEnd
  | blockSequence
  | blockMapping
  | blockEnd
  | flowSequence
  | flowSequenceEnd
  | flowMapping
  | flowMappingEnd
  | key
  | value
  | blockEntry
  | flowEntry
  | alias (name : String)
  | anchor (name : String)
  /-- A tag by its handle, if it has one, and what follows the handle. -/
  | tag (handle : Option String) (rest : String)
  | scalar (text : String) (plain : Bool)
deriving DecidableEq, Repr

end Stencil.Yaml
