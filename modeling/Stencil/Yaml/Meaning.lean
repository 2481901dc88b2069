import Stencil.Encoding.Base64
import Stencil.Number.Numeral
import Stencil.Value.Equality
import Stencil.Yaml.Node
import Stencil.Yaml.Token.Scan

/-!
# The values of documents

Every part of a document has a value by its tag. Of several mistakes the one nearest to the top
counts, and of those on one level the first.
-/

namespace Stencil.Yaml

open Stencil.Text

namespace Meaning

/-! ## Texts -/

/-- Without the low lines between digits. -/
def withoutLines (cs : List Char) : List Char := cs.filter (· != '_')

/-- Whether a number is negative, and its text without the sign; refused for an empty text. -/
def signed (cs : List Char) : Except Failure (Bool × List Char) :=
  match cs with
  | [] => .error .noIndex
  | c :: rest => .ok (c == '-', if c = '-' ∨ c = '+' then rest else c :: rest)

/-- The letter that announces a base behind a zero. -/
def baseLetter (base : Nat) : Char := if base = 2 then 'b' else if base = 8 then 'o' else 'x'

/-- The value of a digit of any script or of a letter. -/
def digitOrLetter? (c : Char) : Option Nat :=
  match digitValue? c with
  | some d => some d
  | none => hexValue? c

/-- The whole number that a text spells in a base. Blanks, a sign and the announcement of the base
may stand in front of the digits; a text without digits or with others is refused. -/
def inBase (base : Nat) (cs : List Char) : Except Failure Int :=
  let (negative, body) := Numeral.splitSign (trimWhile Numeral.isPadding cs)
  let digits := match body with
    | '0' :: c :: rest => if c.toLower = baseLetter base then rest else body
    | _ => body
  let values := digits.map digitOrLetter?
  if !digits.isEmpty && values.all fun v => (v.map fun d => decide (d < base)).getD false then
    let size : Nat := values.foldl (fun n v => n * base + v.getD 0) 0
    .ok (if negative then -size else size)
  else .error .badValue

def decimal (cs : List Char) : Except Failure Int :=
  match Numeral.readInt? cs with
  | some n => .ok n
  | none => .error .badValue

def int (cs : List Char) : Except Failure Int := do
  let (negative, body) ← signed (withoutLines cs)
  let size ← match body with
    | ['0'] => .ok 0
    | '0' :: 'b' :: ds => inBase 2 ds
    | '0' :: 'x' :: ds => inBase 16 ds
    | '0' :: _ => inBase 8 body
    | [] => .error .noIndex
    | body =>
        if body.contains ':' then do
          let parts ← (splitOn ':' body).mapM decimal
          .ok (parts.foldl (fun n p => n * 60 + p) 0)
        else decimal body
  .ok (if negative then -size else size)

/-- The sum of the parts of a number in base sixty, last part first. -/
def inSixtieths (parts : List Binary64) : Binary64 :=
  (parts.foldl (fun (sum, place) p => (Binary64.add sum (p.scale place), place * 60))
    ((.finite false 0 0 : Binary64), 1)).1

def float (cs : List Char) : Except Failure Binary64 := do
  let (negative, body) ← signed (withoutLines (cs.map Char.toLower))
  let number := fun (ds : List Char) =>
    match Numeral.readFloat? ds with
    | some x => .ok x
    | none => .error .badValue
  let size ←
    if body = ".inf".toList then .ok (.infinite false)
    else if body = ".nan".toList then .ok .nan
    else if body.contains ':' then do
      let parts ← (splitOn ':' body).mapM number
      .ok (inSixtieths parts.reverse)
    else number body
  .ok (if negative then size.negate else size)

def bool (s : String) : Except Failure Bool :=
  match Tag.truthWords.lookup s.toLower with
  | some b => .ok b
  | none => .error .noKey

/-- The bytes of a text in base 64. -/
def binary (cs : List Char) : Except Failure Bytes :=
  if cs.all fun c => c.toNat < 0x80 then
    match Base64.decodeLoosely? cs with
    | some bs => .ok bs
    | none => .error .notYaml
  else .error .notYaml

def timestamp (cs : List Char) : Except Failure Value :=
  match Timestamp.parts? cs with
  | none => .error .noAttribute
  | some p => do
      match ← Timestamp.valueOf p with
      | .inl d => .ok (.date d)
      | .inr m => .ok (.moment m)

def scalar (tag : Tag) (s : String) : Except Failure Value :=
  match tag with
  | .null => .ok .null
  | .bool => (bool s).map .bool
  | .int => (int s.toList).map .int
  | .float => (float s.toList).map .float
  | .str => .ok (.str s)
  | .binary => (binary s.toList).map .bytes
  | .timestamp => timestamp s.toList
  | _ => .error .notYaml

/-! ## Mappings that take over others -/

def tagOf : Node → Tag
  | .scalar t _ | .sequence t _ | .mapping t _ => t

/-- The key `=` as a text. -/
def asText : Node → Node
  | .scalar .ownValue s => .scalar .str s
  | n => n

mutual

/-- The entries that a mapping takes over, and then its own. -/
def flatten : Node → Except Failure (List (Node × Node))
  | .mapping _ entries => do
      let taken ← taken entries
      .ok (taken ++ (entries.filter fun e => tagOf e.1 != .merge).map fun e => (asText e.1, e.2))
  | _ => .error .notYaml

/-- The entries that are taken over. -/
def taken : List (Node × Node) → Except Failure (List (Node × Node))
  | [] => .ok []
  | (k, v) :: rest => do
      let here ←
        if tagOf k = .merge then
          match v with
          | .sequence _ items => do .ok (← flattenAll items).reverse.flatten
          | v => flatten v
        else .ok []
      .ok (here ++ (← taken rest))

def flattenAll : List Node → Except Failure (List (List (Node × Node)))
  | [] => .ok []
  | n :: ns => do .ok ((← flatten n) :: (← flattenAll ns))

end

/-- The own value of a mapping, that under the key `=`. -/
def ownText : (fuel : Nat) → Node → Except Failure String
  | 0, _ => .error .notYaml
  | _ + 1, .scalar _ s => .ok s
  | fuel + 1, .mapping _ entries =>
      match entries.find? fun e => tagOf e.1 == .ownValue with
      | some (_, v) => ownText fuel v
      | none => .error .notYaml
  | _ + 1, .sequence .. => .error .notYaml

/-! ## Values -/

/-- A value, or a mistake and the level that it is on. -/
abbrev Outcome (α : Type) := Except (Nat × Failure) α

/-- An outcome on a level. -/
def onLevel {α : Type} (level : Nat) : Except Failure α → Outcome α
  | .ok a => .ok a
  | .error f => .error (level, f)

/-- Two outcomes together. Of two mistakes the one nearer to the top counts, else the first. -/
def both {α β : Type} (a : Outcome α) (b : Outcome β) : Outcome (α × β) :=
  match a, b with
  | .ok x, .ok y => .ok (x, y)
  | .error e, .ok _ => .error e
  | .ok _, .error e => .error e
  | .error e, .error e' => .error (if e'.1 < e.1 then e' else e)

/-- Whether a tag stands for values that consist of others. -/
def isCollection : Tag → Bool
  | .seq | .map | .set | .omap | .pairs => true
  | _ => false

/-- The value of a part, on a level, for parts nested at most `fuel` deep. -/
def value : (fuel : Nat) → (level : Nat) → Node → Outcome Value
  | 0, level, _ => .error (level, .notYaml)
  | fuel + 1, level, n =>
      let items := fun (ns : List Node) =>
        ns.foldr (fun x xs => (both (value fuel (level + 1) x) xs).map fun (v, vs) => v :: vs)
          (.ok [])
      let entries := fun (es : List (Node × Node)) =>
        es.foldr (fun e more =>
          let key :=
            if isCollection (tagOf e.1) then .error (level + 1, .notYaml)
            else value fuel (level + 1) e.1
          (both (both key (value fuel (level + 1) e.2)) more).map fun (kv, kvs) => kv :: kvs)
          (.ok [])
      let pair := fun (m : Node) =>
        match m with
        | .mapping _ [(k, v)] =>
            (both (value fuel (level + 1) k) (value fuel (level + 1) v)).map fun (a, b) =>
              Value.tuple [a, b]
        | _ => .error (level + 1, .notYaml)
      match tagOf n, n with
      | .seq, .sequence _ ns => (items ns).map .list
      | .map, n => do
          let es ← onLevel (level + 1) (flatten n)
          (entries es).map fun kvs => .mapping (Value.ofEntries kvs)
      | .set, n => do
          let es ← onLevel (level + 1) (flatten n)
          (entries es).map fun kvs => .set (Value.distinct (kvs.map Prod.fst))
      | .omap, .sequence _ ns | .pairs, .sequence _ ns =>
          (ns.foldr (fun m ms => (both (pair m) ms).map fun (v, vs) => v :: vs) (.ok [])).map .list
      | t, n =>
          if isCollection t then .error (level + 1, .notYaml)
          else onLevel level do scalar t (← ownText (fuel + 1) n)

def depth : Node → Nat
  | .scalar .. => 1
  | .sequence _ ns => deepest ns + 1
  | .mapping _ es => deepestEntry es + 1
where
  deepest : List Node → Nat
    | [] => 0
    | n :: ns => max (depth n) (deepest ns)
  deepestEntry : List (Node × Node) → Nat
    | [] => 0
    | (k, v) :: es => max (max (depth k) (depth v)) (deepestEntry es)

end Meaning

/-- The value of a text; null if it holds no document. -/
def read (cs : List Char) : Except Failure Value := do
  match ← Node.ofTokens? (← tokens cs) with
  | none => .ok .null
  | some n => (Meaning.value (Meaning.depth n + 1) 0 n).mapError Prod.snd

end Stencil.Yaml
