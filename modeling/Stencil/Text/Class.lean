import Stencil.Text.WordTable
import Stencil.Text.PrintableTable
import Stencil.Text.DigitTable

/-!
# Classes of characters

Blanks, letters and digits as the tag syntax understands them: those of every script, not of ASCII
alone. Each class first answers for ASCII without looking at a table, so that what is said about
ASCII text never depends on the tables.
-/

namespace Stencil.Text

/-! ## Looking a code point up -/

/-- The number of listed points that are at most `c`, for points in rising order. -/
def pointsUpTo (points : Array Nat) (c lo hi : Nat) : Nat :=
  if lo < hi then
    let mid := (lo + hi) / 2
    if points.getD mid 0 ≤ c then pointsUpTo points c (mid + 1) hi
    else pointsUpTo points c lo mid
  else lo
termination_by hi - lo

/-- Whether the class that changes at the listed points holds the code point `c`. -/
def inClass (points : Array Nat) (c : Nat) : Bool :=
  pointsUpTo points c 0 points.size % 2 == 1

/-! ## The classes -/

/-- Blank characters: the spaces, tabs, line ends and separators that trimming removes. -/
def isBlank (c : Char) : Bool :=
  let n := c.toNat
  (0x09 ≤ n && n ≤ 0x0D) || (0x1C ≤ n && n ≤ 0x20) || n == 0x85 || n == 0xA0 || n == 0x1680 ||
    (0x2000 ≤ n && n ≤ 0x200A) || n == 0x2028 || n == 0x2029 || n == 0x202F || n == 0x205F ||
    n == 0x3000

/-- The value of a decimal digit of any script. -/
def digitValue? (c : Char) : Option Nat :=
  let n := c.toNat
  if n < 0x80 then
    if c.isDigit then some (n - 0x30) else none
  else
    let k := pointsUpTo digitZeros n 0 digitZeros.size
    let base := digitZeros.getD (k - 1) 0
    if n < base + 10 then some (n - base) else none

def isDigit (c : Char) : Bool := (digitValue? c).isSome

/-- Letters, numbers and the low line: the characters that make up words. -/
def isWordChar (c : Char) : Bool :=
  if c.toNat < 0x80 then c.isAlphanum || c == '_' else inClass wordPoints c.toNat

/-- Characters that can be shown as they are. -/
def isPrintable (c : Char) : Bool :=
  if c.toNat < 0x80 then 0x20 ≤ c.toNat && c.toNat < 0x7F else inClass printablePoints c.toNat

def hexValue? (c : Char) : Option Nat :=
  if '0' ≤ c && c ≤ '9' then some (c.toNat - 0x30)
  else if 'a' ≤ c && c ≤ 'f' then some (c.toNat - 0x61 + 10)
  else if 'A' ≤ c && c ≤ 'F' then some (c.toNat - 0x41 + 10)
  else none

/-- The digit of a value below sixteen, in lower case. -/
def hexDigit (n : Nat) : Char :=
  if n < 10 then Char.ofNat (0x30 + n) else Char.ofNat (0x61 + n - 10)

/-- The digit of a value below sixteen, in upper case. -/
def hexDigitUpper (n : Nat) : Char :=
  if n < 10 then Char.ofNat (0x30 + n) else Char.ofNat (0x41 + n - 10)

/-- `n` in base sixteen with at least `width` digits, in lower case. -/
def hexDigits (width n : Nat) : List Char :=
  let digits := Nat.toDigits 16 n
  List.replicate (width - digits.length) '0' ++ digits

end Stencil.Text
