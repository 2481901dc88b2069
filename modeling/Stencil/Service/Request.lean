import Stencil.Encoding.Percent
import Stencil.Json.Reader

/-!
# Requests

What a client asks of the service, and the bodies of its requests. A body is a JSON object; what it
holds beyond the expected fields is passed over.
-/

namespace Stencil.Service

open Stencil.Text

/-- A request. The body is the text that was sent. -/
structure Request where
  method : String
  address : String
  body : String

/-- An answer: its status and the document it consists of. -/
structure Response where
  status : Nat
  body : Value

namespace Request

/-- The path of an address, without the query behind it and with its escapes read. -/
def path (r : Request) : String :=
  String.ofList (Percent.decode (r.address.toList.takeWhile fun c => c != '?' && c != '#'))

end Request

/-! ## Bodies -/

/-- Why a body is not taken. -/
inductive BodyFault
  /-- It is missing or does not hold what is expected. -/
  | invalid
  /-- It could not be read to its end. -/
  | unreadable
deriving DecidableEq, Repr

/-- The words for true and false in a body, in small letters. -/
def truthWords : List (String × Bool) :=
  [("0", false), ("off", false), ("f", false), ("false", false), ("n", false), ("no", false),
    ("1", true), ("on", true), ("t", true), ("true", true), ("y", true), ("yes", true)]

/-- The truth value that a field stands for: one, a word for one in whatever case, or zero or
one. -/
def truth? : Value → Option Bool
  | .bool b => some b
  | .str s => truthWords.lookup s.toLower
  | .int n => if n = 0 then some false else if n = 1 then some true else none
  | .float x =>
      match x.isWhole, x.truncate? with
      | true, some 0 => some false
      | true, some 1 => some true
      | _, _ => none
  | _ => none

abbrev Fields := List (Value × Value)

/-- The fields of the object that a text is. -/
def fieldsOf (body : String) : Except BodyFault Fields :=
  let cs := body.toList
  let cs := if cs.head? = some '\uFEFF' then cs.drop 1 else cs
  match Json.read cs with
  | .ok (.mapping fields) => .ok fields
  | .ok _ => .error .invalid
  | .error .badValue => .error .unreadable
  | .error _ => .error .invalid

def textField (fields : Fields) (name : String) : Except BodyFault String :=
  match Value.lookup? (.str name) fields with
  | some (.str s) => .ok s
  | _ => .error .invalid

/-- A field of arguments, none if it is missing. -/
def argumentsField (fields : Fields) (name : String) : Except BodyFault Arguments :=
  match Value.lookup? (.str name) fields with
  | none => .ok []
  | some (.mapping entries) =>
      .ok (Arguments.ofPairs (entries.filterMap fun e => e.1.str?.map fun s => (s, e.2)))
  | some _ => .error .invalid

/-- A field that stands for a truth value, `usual` if it is missing. -/
def truthField (fields : Fields) (name : String) (usual : Bool) : Except BodyFault Bool :=
  match Value.lookup? (.str name) fields with
  | none => .ok usual
  | some v => match truth? v with
      | some b => .ok b
      | none => .error .invalid

end Stencil.Service
