import Stencil.Encoding.Base64
import Stencil.Value.Order
import Stencil.Yaml.Node

/-!
# The parts that stand for a value

A value becomes parts of a document: single values become texts with tags, lists and tuples
sequences, mappings and sets mappings. The entries of a mapping are in the order of their keys if
all of these can be compared, else in the order they have. A set that cannot change has no form in a
document.
-/

namespace Stencil.Yaml.Represent

open Stencil.Text

def floatText (x : Binary64) : String :=
  match x with
  | .nan => ".nan"
  | .infinite negative => if negative then "-.inf" else ".inf"
  | x =>
      let cs := x.chars
      if cs.contains '.' || !cs.contains 'e' then String.ofList cs
      else
        let digits := cs.takeWhile (· != 'e')
        String.ofList (digits ++ '.' :: '0' :: cs.drop digits.length)

/-- Bytes in base 64 in lines of 57 bytes each. -/
def byteLines (bs : Bytes) : List Char :=
  match bs with
  | [] => []
  | b :: rest => Base64.encode ((b :: rest).take 57) ++ '\n' :: byteLines (rest.drop 56)
termination_by bs.length
decreasing_by all_goals (simp only [List.length_drop, List.length_cons]; omega)

/-- The text and the tag of a single value; none for a value that consists of others. -/
def scalar? : Value → Except Failure (Option Node)
  | .null => .ok (some (.scalar .null "null"))
  | .bool b => .ok (some (.scalar .bool (if b then "true" else "false")))
  | .int n =>
      match Numeral.intText? n with
      | some s => .ok (some (.scalar .int s))
      | none => .error .badValue
  | .float x => .ok (some (.scalar .float (floatText x)))
  | .str s => .ok (some (.scalar .str s))
  | .date d => .ok (some (.scalar .timestamp d.toText))
  | .moment m => .ok (some (.scalar .timestamp m.toText))
  | .bytes bs => .ok (some (.scalar .binary (String.ofList (byteLines bs))))
  | _ => .ok none

/-- Entries in the order of their keys if all of these can be compared. -/
def inKeyOrder {α : Type} (entries : List (Value × α)) : List (Value × α) :=
  if Value.areComparable (entries.map Prod.fst) then
    entries.mergeSort fun a b => !((Value.less? b.1 a.1).getD false)
  else entries

mutual

/-- The part that stands for a value. -/
def node : Value → Except Failure Node
  | .list xs => (items xs).map (.sequence .seq)
  | .tuple xs => (items xs).map (.sequence .seq)
  | .mapping es => ((inKeyOrder (entries es)).mapM Prod.snd).map (.mapping .map)
  | .set xs => ((inKeyOrder (members xs)).mapM Prod.snd).map (.mapping .set)
  | v => do
      match ← scalar? v with
      | some n => .ok n
      | none => .error .notYaml

def items : List Value → Except Failure (List Node)
  | [] => .ok []
  | x :: xs => do .ok ((← node x) :: (← items xs))

/-- The parts that stand for entries, each with the key it belongs to. -/
def entries : List (Value × Value) → List (Value × Except Failure (Node × Node))
  | [] => []
  | (k, v) :: rest => (k, do .ok (← node k, ← node v)) :: entries rest

/-- The members of a set as entries without values. -/
def members : List Value → List (Value × Except Failure (Node × Node))
  | [] => []
  | x :: xs => (x, do .ok (← node x, .scalar .null "null")) :: members xs

end

end Stencil.Yaml.Represent
