import Stencil.Value.Basic

/-!
# When two values are the same

Numbers, and with them truth values, are the same when they stand for the same number, whatever
their sort. Lists are compared item by item, mappings and sets without regard to order. What is not
a number is not the same as itself.
-/

namespace Stencil

/-- A whole or a floating number. -/
inductive Number
  | whole (n : Int)
  | floating (x : Binary64)
deriving DecidableEq

namespace Number

/-- The order of two numbers by their exact values; none if one of them is not a number. -/
def compare? : Number → Number → Option Ordering
  | .whole a, .whole b => some (compare a b)
  | .floating x, .floating y => x.compare? y
  | .floating x, .whole b => x.compareInt? b
  | .whole a, .floating y => (y.compareInt? a).map Ordering.swap

def toValue : Number → Value
  | .whole n => .int n
  | .floating x => .float x

end Number

namespace Value

/-- The number that a value is; truth values are 1 and 0. -/
def number? : Value → Option Number
  | .bool b => some (.whole b.toNat)
  | .int n => some (.whole n)
  | .float x => some (.floating x)
  | _ => none

/-- Equality of the values that contain no others. -/
def sameScalar (a b : Value) : Bool :=
  match a, b with
  | .null, .null => true
  | .str s, .str t => s == t
  | .date d, .date e => d == e
  | .moment m, .moment n => m.same n
  | .bytes b, .bytes c => b == c
  | a, b =>
      match a.number?, b.number? with
      | some x, some y => x.compare? y == some .eq
      | _, _ => false

/-- The elements of a set of either sort. -/
def elements? : Value → Option (List Value)
  | .set items | .fixedSet items => some items
  | _ => none

mutual

def same : Value → Value → Bool
  | .list xs, .list ys => sameItems xs ys
  | .tuple xs, .tuple ys => sameItems xs ys
  | .mapping xs, .mapping ys => xs.length == ys.length && sameEntries xs ys
  | .set xs, b => match b.elements? with
      | some ys => xs.length == ys.length && allIn xs ys
      | none => false
  | .fixedSet xs, b => match b.elements? with
      | some ys => xs.length == ys.length && allIn xs ys
      | none => false
  | a, b => sameScalar a b

def sameItems : List Value → List Value → Bool
  | [], [] => true
  | x :: xs, y :: ys => same x y && sameItems xs ys
  | _, _ => false

/-- Whether the second mapping has every entry of the first. -/
def sameEntries : List (Value × Value) → List (Value × Value) → Bool
  | [], _ => true
  | (k, v) :: rest, ys => (ys.any fun e => same k e.1 && same v e.2) && sameEntries rest ys

/-- Whether the second list has every item of the first. -/
def allIn : List Value → List Value → Bool
  | [], _ => true
  | x :: xs, ys => (ys.any fun y => same x y) && allIn xs ys

end

def sameShape (a b : Value) : Bool := a.shape == b.shape

/-! ## Mappings and sets -/

def lookup? (key : Value) (entries : List (Value × Value)) : Option Value :=
  (entries.find? fun e => e.1.same key).map (·.2)

/-- The mapping with `value` under `key`. A key that is there keeps its place and its form. -/
def insert (key value : Value) : List (Value × Value) → List (Value × Value)
  | [] => [(key, value)]
  | (k, v) :: rest => if k.same key then (k, value) :: rest else (k, v) :: insert key value rest

/-- The mapping with the given entries, later values replacing earlier ones. -/
def ofEntries (entries : List (Value × Value)) : List (Value × Value) :=
  entries.foldl (fun acc e => insert e.1 e.2 acc) []

def distinct (items : List Value) : List Value :=
  items.foldl (fun acc x => if acc.any (·.same x) then acc else acc ++ [x]) []

mutual

/-- Whether a value can be a key or an element: one that can never change. -/
def isFixed : Value → Bool
  | .list _ | .mapping _ | .set _ => false
  | .tuple items => allFixed items
  | _ => true

/-- Whether every item can be a key. -/
def allFixed : List Value → Bool
  | [] => true
  | x :: xs => isFixed x && allFixed xs

end

end Value

namespace Arguments

def find? (args : Arguments) (name : String) : Option Value := args.lookup name

/-- The arguments with `value` under `name`. A name that is there keeps its place. -/
def set : Arguments → String → Value → Arguments
  | [], name, value => [(name, value)]
  | (n, v) :: rest, name, value =>
      if n = name then (n, value) :: rest else (n, v) :: set rest name value

/-- The first arguments with those of the second put over them. -/
def update (args more : Arguments) : Arguments :=
  more.foldl (fun acc e => set acc e.1 e.2) args

/-- Arguments from pairs, later values replacing earlier ones. -/
def ofPairs (pairs : List (String × Value)) : Arguments := update [] pairs

end Arguments

end Stencil
