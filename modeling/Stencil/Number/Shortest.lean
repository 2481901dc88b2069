import Stencil.Number.Binary64

/-!
# The shortest decimal that reads back

A finite number is written with the fewest decimal digits that round to it again, and among those
with the digits nearest to it. For each count of digits only two candidates matter, the number's
neighbours on that decimal grid: if any grid point rounds to the number, one of the two does.
-/

namespace Stencil

namespace Binary64

/-- The decimal exponent of the leading digit of `num / den`, for a positive quotient. -/
def leadingDecimal (num den : Nat) : Int :=
  if den ≤ num then ((Nat.toDigits 10 (num / den)).length : Int) - 1
  else
    let k := (Nat.toDigits 10 (den / num)).length - 1
    if den ≤ num * Nat.pow 10 k then -(k : Int) else -(k : Int) - 1

/-- The candidates for `num / den` on the grid of the multiples of `10 ^ e`, nearer first. -/
def neighbours (num den : Nat) (e : Int) : List Nat :=
  let (num, den) :=
    if 0 ≤ e then (num, den * Nat.pow 10 e.toNat) else (num * Nat.pow 10 (-e).toNat, den)
  let below := num / den
  let near := roundHalfEven num den
  if num % den = 0 then [below]
  else if near = below then [below, below + 1] else [below + 1, below]

/-- The first of the grids with `count`, `count + 1`, … digits, `tries` at most, that holds a
decimal which reads back as the number: its digits and its exponent. -/
def shortestFrom (m : Nat) (e : Int) (num den : Nat) (lead : Int) : (tries count : Nat) → Nat × Int
  | 0, _ => (m, e)
  | tries + 1, count =>
      let grid := lead + 1 - count
      let readsBack := fun d => ofDecimal false d grid == .finite false m e
      match (neighbours num den grid).find? readsBack with
      | some d => (d, grid)
      | none => shortestFrom m e num den lead tries (count + 1)

/-- The digits without trailing zeros, and the exponent that makes up for them. -/
def dropZeros (d : Nat) (e : Int) : (tries : Nat) → Nat × Int
  | 0 => (d, e)
  | tries + 1 => if d ≠ 0 ∧ d % 10 = 0 then dropZeros (d / 10) (e + 1) tries else (d, e)

/-- The shortest decimal `digits * 10 ^ exponent` that reads back as the positive number
`m * 2 ^ e`. Seventeen digits are always enough. -/
def shortest (m : Nat) (e : Int) : Nat × Int :=
  let (num, den) := ratio m e
  let (d, k) := shortestFrom m e num den (leadingDecimal num den) 17 1
  dropZeros d k 20

/-! ## Notation -/

/-- How a number is written: where positional notation gives way to an exponent. -/
structure Notation where
  /-- Numbers below ten to this power take an exponent. -/
  least : Int
  /-- Numbers from ten to this power on take an exponent. -/
  limit : Int
  /-- The fewest digits of an exponent. -/
  exponentDigits : Nat

/-- Numbers are written positionally from `0.0001` to below `10 ^ 16`, always with a point, and the
exponent has a sign and at least two digits. -/
def plain : Notation := ⟨-4, 16, 2⟩

def digitsOf (n : Nat) : List Char := Nat.toDigits 10 n

/-- The decimal `digits * 10 ^ k` in notation `style`. -/
def writeDecimal (style : Notation) (digits : Nat) (k : Int) : List Char :=
  let ds := digitsOf digits
  let lead : Int := (ds.length : Int) - 1 + k
  if style.least ≤ lead ∧ lead < style.limit then
    if 0 ≤ k then ds ++ List.replicate k.toNat '0' ++ ['.', '0']
    else if 0 ≤ lead then
      ds.take (lead.toNat + 1) ++ '.' :: ds.drop (lead.toNat + 1)
    else '0' :: '.' :: (List.replicate (-lead - 1).toNat '0' ++ ds)
  else
    let fraction := match ds with
      | d :: r :: rest => d :: '.' :: r :: rest
      | short => short
    let sign := if 0 ≤ lead then '+' else '-'
    let power := digitsOf lead.natAbs
    fraction ++ 'e' :: sign :: (List.replicate (style.exponentDigits - power.length) '0' ++ power)

/-- The number as text: the shortest decimal, or a word. -/
def chars : Binary64 → List Char
  | .nan => ['n', 'a', 'n']
  | .infinite negative => (if negative then ['-'] else []) ++ ['i', 'n', 'f']
  | .finite negative m e =>
      let sign := if negative then ['-'] else []
      if m = 0 then sign ++ ['0', '.', '0']
      else
        let (d, k) := shortest m e
        sign ++ writeDecimal plain d k

def toText (x : Binary64) : String := String.ofList x.chars

end Binary64

end Stencil
