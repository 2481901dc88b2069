import Stencil.Text.Class
import Stencil.Text.CaseTable

/-!
# Changing case

Upper and lower case of whole texts in every script. Upper case can take several characters for one.
Lower case has one rule that looks at the neighbours: a capital sigma that ends a word becomes the
final form of the letter. ASCII characters are answered for without a table.
-/

namespace Stencil.Text

/-! ## Single characters -/

/-- The counterpart of a code point by the rows of a table. -/
def counterpart? (rows : Array CaseRow) (n : Nat) : Option Nat :=
  (rows.find? fun r => r.first ≤ n && n ≤ r.last && (n - r.first) % r.step == 0).map
    fun r => ((n : Int) + r.shift).toNat

def upperOf (c : Char) : List Char :=
  if c.toNat < 0x80 then [c.toUpper]
  else match upperSequences.lookup c.toNat with
    | some points => points.map Char.ofNat
    | none => [((counterpart? upperRows c.toNat).map Char.ofNat).getD c]

/-- The lower case of a character that stands by itself. -/
def lowerOf (c : Char) : List Char :=
  if c.toNat < 0x80 then [c.toLower]
  else if c = '\u0130' then ['i', '\u0307']
  else [((counterpart? lowerRows c.toNat).map Char.ofNat).getD c]

def isLower (c : Char) : Bool :=
  if c.toNat < 0x80 then c.isLower else inClass lowerPoints c.toNat

def isCased (c : Char) : Bool :=
  if c.toNat < 0x80 then c.isAlpha else inClass casedPoints c.toNat

/-- A character that the rule for the end of a word looks past. -/
def isCaseIgnorable (c : Char) : Bool := inClass ignorablePoints c.toNat

/-! ## Texts -/

def upper (cs : List Char) : List Char := cs.flatMap upperOf

/-- Whether the nearest character that is not looked past has case. -/
def meetsCased (cs : List Char) : Bool :=
  match cs.dropWhile isCaseIgnorable with
  | [] => false
  | c :: _ => isCased c

/-- The text in lower case, where `before` holds what precedes it, nearest first. -/
def lowerAfter (before : List Char) : List Char → List Char
  | [] => []
  | c :: cs =>
      let low :=
        if c = '\u03A3' then
          if meetsCased before && !meetsCased cs then ['\u03C2'] else ['\u03C3']
        else lowerOf c
      low ++ lowerAfter (c :: before) cs

def lower (cs : List Char) : List Char := lowerAfter [] cs

end Stencil.Text
