/-!
# Floating numbers of 64 bits

A number is kept as what it is: a sign, a whole mantissa and a power of two, an infinity, or not a
number. Every operation is done exactly on whole numbers and rounded once, to the nearest
representable number, a tie going to the even mantissa. So all that is said about these numbers is
said about whole numbers.
-/

namespace Stencil

/-- A floating number of 64 bits. A finite one stands for `mantissa * 2 ^ exponent`. -/
inductive Binary64
  | finite (negative : Bool) (mantissa : Nat) (exponent : Int)
  | infinite (negative : Bool)
  | nan
deriving DecidableEq, Inhabited

namespace Binary64

/-- The least exponent, that of the numbers next to zero. -/
def minExponent : Int := -1074

def maxExponent : Int := 971

/-! ## Rounding -/

/-- The whole number nearest to `num / den`, a tie going to the even one. -/
def roundHalfEven (num den : Nat) : Nat :=
  let q := num / den
  let r := num % den
  if 2 * r < den then q
  else if den < 2 * r then q + 1
  else if q % 2 = 0 then q else q + 1

/-- The exponent of the leading binary digit of `num / den`. -/
def leadingExponent (num den : Nat) : Int :=
  let k : Int := (Nat.log2 num : Int) - Nat.log2 den
  let reaches := if 0 ≤ k then den * Nat.pow 2 k.toNat ≤ num else den ≤ num * Nat.pow 2 (-k).toNat
  if reaches then k else k - 1

/-- The number nearest to `num / den`. -/
def ofRatio (negative : Bool) (num den : Nat) : Binary64 :=
  if num = 0 then .finite negative 0 minExponent
  else
    let e := max (leadingExponent num den - 52) minExponent
    let m :=
      if 0 ≤ e then roundHalfEven num (den * Nat.pow 2 e.toNat)
      else roundHalfEven (num * Nat.pow 2 (-e).toNat) den
    let (m, e) := if m = Nat.pow 2 53 then (Nat.pow 2 52, e + 1) else (m, e)
    if maxExponent < e then .infinite negative else .finite negative m e

/-- Past this power of ten nothing is finite, and below its inverse nothing differs from zero. -/
def decimalReach : Int := 400

/-- The number nearest to `digits * 10 ^ exponent`. -/
def ofDecimal (negative : Bool) (digits : Nat) (exponent : Int) : Binary64 :=
  if digits = 0 then .finite negative 0 minExponent
  else
    let size : Int := (Nat.log2 digits : Int) * 3 / 10 + exponent
    if decimalReach < size then .infinite negative
    else if size < -decimalReach - (Nat.log2 digits : Int) then .finite negative 0 minExponent
    else if 0 ≤ exponent then ofRatio negative (digits * Nat.pow 10 exponent.toNat) 1
    else ofRatio negative digits (Nat.pow 10 (-exponent).toNat)

/-- The number nearest to a whole number; none if it is too large to be finite. -/
def ofInt? (n : Int) : Option Binary64 :=
  match ofRatio (n < 0) n.natAbs 1 with
  | .infinite _ => none
  | x => some x

/-! ## Exact values -/

/-- The size of a finite number as a quotient of whole numbers. -/
def ratio (mantissa : Nat) (exponent : Int) : Nat × Nat :=
  if 0 ≤ exponent then (mantissa * Nat.pow 2 exponent.toNat, 1)
  else (mantissa, Nat.pow 2 (-exponent).toNat)

def isWhole : Binary64 → Bool
  | .finite _ m e => let (num, den) := ratio m e; num % den == 0
  | _ => false

/-- The number without the part after the point; none for infinities and what is not a number. -/
def truncate? : Binary64 → Option Int
  | .finite negative m e =>
      let (num, den) := ratio m e
      some (if negative then -((num / den : Nat) : Int) else ((num / den : Nat) : Int))
  | _ => none

def isZero : Binary64 → Bool
  | .finite _ m _ => m == 0
  | _ => false

/-! ## Order -/

/-- The finite number as a whole multiple of `2 ^ least`, for a `least` at most its exponent. -/
def scaled (negative : Bool) (m : Nat) (e least : Int) : Int :=
  let size : Int := (m * Nat.pow 2 (e - least).toNat : Nat)
  if negative then -size else size

/-- The order of two numbers; none if one of them is not a number. Zeros of either sign are
equal. -/
def compare? : Binary64 → Binary64 → Option Ordering
  | .nan, _ => none
  | _, .nan => none
  | .infinite s, .infinite t => some (compare t.toNat s.toNat)
  | .infinite s, .finite .. => some (if s then .lt else .gt)
  | .finite .., .infinite t => some (if t then .gt else .lt)
  | .finite s m e, .finite t n f =>
      let least := min e f
      some (compare (scaled s m e least) (scaled t n f least))

def compareInt? : Binary64 → Int → Option Ordering
  | .nan, _ => none
  | .infinite s, _ => some (if s then .lt else .gt)
  | .finite s m e, n =>
      let least := min e 0
      some (compare (scaled s m e least) (scaled (n < 0) n.natAbs 0 least))

/-! ## Arithmetic -/

/-- The finite number with the value `n * 2 ^ e`, rounded. -/
def ofScaled (n e : Int) (negativeZero : Bool) : Binary64 :=
  if n = 0 then .finite negativeZero 0 minExponent
  else
    let (num, den) := ratio n.natAbs e
    ofRatio (n < 0) num den

def add : Binary64 → Binary64 → Binary64
  | .nan, _ => .nan
  | _, .nan => .nan
  | .infinite s, .infinite t => if s = t then .infinite s else .nan
  | .infinite s, _ => .infinite s
  | _, .infinite t => .infinite t
  | .finite s m e, .finite t n f =>
      let least := min e f
      ofScaled (scaled s m e least + scaled t n f least) least (s && t)

def scale : Binary64 → Nat → Binary64
  | .nan, _ => .nan
  | .infinite s, n => if n = 0 then .nan else .infinite s
  | .finite s m e, n => ofScaled (scaled s (m * n) e e) e s

def negate : Binary64 → Binary64
  | .nan => .nan
  | .infinite s => .infinite (!s)
  | .finite s m e => .finite (!s) m e

end Binary64

end Stencil
