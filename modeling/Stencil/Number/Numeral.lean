import Stencil.Number.Shortest
import Stencil.Text.Trim

/-!
# Numbers as they are written

The shapes of whole numbers and of numbers with a point, and what they stand for. The digits may be
those of any script. Whole numbers are converted in either direction only up to a fixed count of
digits; past it the conversion refuses.
-/

namespace Stencil.Numeral

open Stencil.Text

/-- The most decimal digits that are converted to or from a whole number. -/
def maxDigits : Nat := 4300

/-! ## Whole numbers -/

def splitSign : List Char → Bool × List Char
  | '-' :: cs => (true, cs)
  | '+' :: cs => (false, cs)
  | cs => (false, cs)

def digitsValue (cs : List Char) : Nat :=
  cs.foldl (fun n c => n * 10 + (digitValue? c).getD 0) 0

/-- A sign or none, and digits. -/
def isWhole (cs : List Char) : Bool :=
  let digits := (splitSign cs).2
  !digits.isEmpty && digits.all isDigit

/-- The value of a text with the shape of a whole number; none if it has too many digits. -/
def wholeValue? (cs : List Char) : Option Int :=
  let (negative, digits) := splitSign cs
  if maxDigits < digits.length then none
  else if negative then some (-(digitsValue digits : Int)) else some (digitsValue digits)

/-- A whole number in decimal digits; none if there are too many of them. -/
def writeInt? (n : Int) : Option (List Char) :=
  let digits := Nat.toDigits 10 n.natAbs
  if maxDigits < digits.length then none
  else some (if n < 0 then '-' :: digits else digits)

def intText? (n : Int) : Option String := (writeInt? n).map String.ofList

/-- The blanks that may stand around a number. -/
def isPadding (c : Char) : Bool := isBlank c && !(0x1C ≤ c.toNat && c.toNat ≤ 0x1F)

/-- Digits with single low lines between them, without the lines; none for any other text. -/
def joinedDigits? : List Char → Option (List Char)
  | [] => none
  | [c] => if isDigit c then some [c] else none
  | c :: '_' :: cs => if isDigit c then (joinedDigits? cs).map (c :: ·) else none
  | c :: cs => if isDigit c then (joinedDigits? cs).map (c :: ·) else none

/-- The whole number that a text spells, blanks around it and low lines between digits allowed. -/
def readInt? (cs : List Char) : Option Int := do
  let (negative, rest) := splitSign (trimWhile isPadding cs)
  let digits ← joinedDigits? rest
  wholeValue? (if negative then '-' :: digits else digits)

/-! ## Numbers with a point -/

/-- A sign or none, and digits with one point that has digits on one side at least. -/
def isPointed (cs : List Char) : Bool :=
  let body := (splitSign cs).2
  let before := body.takeWhile isDigit
  match body.dropWhile isDigit with
  | '.' :: after => after.all isDigit && !(before.isEmpty && after.isEmpty)
  | _ => false

/-- The number that a text with the shape of a number with a point stands for. -/
def pointedValue (cs : List Char) : Binary64 :=
  let (negative, body) := splitSign cs
  let before := body.takeWhile isDigit
  let after := (body.dropWhile isDigit).drop 1
  Binary64.ofDecimal negative (digitsValue (before ++ after)) (-(after.length : Int))

/-- The decimal exponent written after `e`; none if the text is not one. -/
def exponent? : List Char → Option Int
  | [] => some 0
  | c :: cs =>
      if c = 'e' ∨ c = 'E' then do
        let (negative, rest) := splitSign cs
        let digits ← joinedDigits? rest
        some (if negative then -(digitsValue digits : Int) else digitsValue digits)
      else none

/-- The words for what has no digits. -/
def word? (negative : Bool) (cs : List Char) : Option Binary64 :=
  let word := String.ofList (cs.map Char.toLower)
  if word = "inf" ∨ word = "infinity" then some (.infinite negative)
  else if word = "nan" then some .nan
  else none

/-- The digits before and after the point, and what follows them. -/
def fraction? (cs : List Char) : Option (List Char × List Char × List Char) := do
  let inNumber := fun c => isDigit c || c == '_'
  let before := cs.takeWhile inNumber
  let (after, rest) := match cs.dropWhile inNumber with
    | '.' :: rest => (rest.takeWhile inNumber, rest.dropWhile inNumber)
    | rest => ([], rest)
  let optional := fun (ds : List Char) => if ds.isEmpty then some [] else joinedDigits? ds
  let b ← optional before
  let a ← optional after
  if b.isEmpty && a.isEmpty then none else some (b, a, rest)

/-- The number that a text spells: a sign, digits with a point and an exponent, or a word for
infinity or what is not a number. Blanks may stand around it and low lines between digits. -/
def readFloat? (cs : List Char) : Option Binary64 :=
  let (negative, body) := splitSign (trimWhile isPadding cs)
  match fraction? body with
  | some (before, after, rest) => do
      let e ← exponent? rest
      some (Binary64.ofDecimal negative (digitsValue (before ++ after)) (e - after.length))
  | none => word? negative body

end Stencil.Numeral
