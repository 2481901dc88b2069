import Stencil.Text.Class

/-!
# The pieces of a date in free form

A date is first cut into words, numbers and single marks. A number may have a point, or a comma
after two digits, with digits behind it; a word may have points inside. What turns out to hold more
than one point, or letters and a point, is cut at its points and commas again.
-/

namespace Stencil.FreeForm

open Stencil.Text

/-- What a piece has turned out to be so far. -/
inductive Shape
  | word | number | dottedWord | dottedNumber
deriving DecidableEq

/-- A letter of any script. -/
def isLetter (c : Char) : Bool := isWordChar c && !isDigit c && c != '_'

/-- The shape of a piece after one more character; none if the character does not belong to it.
`last` is its last character and `size` its length. -/
def Shape.next? (s : Shape) (last : Char) (size : Nat) (c : Char) : Option Shape :=
  match s with
  | .word => if isLetter c then some .word else if c = '.' then some .dottedWord else none
  | .number =>
      if isDigit c then some .number
      else if c = '.' ∨ (c = ',' ∧ 2 ≤ size) then some .dottedNumber
      else none
  | .dottedWord =>
      if c = '.' || isLetter c then some .dottedWord
      else if isDigit c && last == '.' then some .dottedNumber
      else none
  | .dottedNumber =>
      if c = '.' || isDigit c then some .dottedNumber
      else if isLetter c && last == '.' then some .dottedWord
      else none

/-- The characters of a piece from a place on, and its last shape. `seen` holds those read before,
last character first. -/
def extend (s : Shape) (seen : List Char) (lettersSeen : Bool) :
    List Char → List Char × Shape × Bool × List Char
  | [] => (seen.reverse, s, lettersSeen, [])
  | c :: cs =>
      let letters := lettersSeen || s == .word || s == .dottedWord
      match s.next? (seen.head?.getD ' ') seen.length c with
      | some t => extend t (c :: seen) letters cs
      | none => (seen.reverse, s, letters, c :: cs)

/-- The parts of a piece at its points and commas, which are parts themselves. -/
def splitMarks (current : List Char) : List Char → List (List Char)
  | [] => if current.isEmpty then [] else [current.reverse]
  | c :: cs =>
      if c = '.' ∨ c = ',' then
        (if current.isEmpty then [] else [current.reverse]) ++ [c] :: splitMarks [] cs
      else splitMarks (c :: current) cs

/-- The tokens that a piece is made of. -/
def tokensOf (piece : List Char) (s : Shape) (lettersSeen : Bool) : List (List Char) :=
  let dotted := s == .dottedWord || s == .dottedNumber
  let points := piece.count '.'
  let endsInMark := match piece.getLast? with
    | some c => c == '.' || c == ','
    | none => false
  let parts :=
    if dotted && (lettersSeen || 1 < points || endsInMark) then splitMarks [] piece else [piece]
  match parts with
  | first :: rest =>
      if s == .dottedNumber && !first.contains '.' then
        first.map (fun c => if c = ',' then '.' else c) :: rest
      else first :: rest
  | [] => []

/-- The tokens of a text, at most `tries` pieces. Every blank is one token. -/
def tokensFrom : (tries : Nat) → List Char → List (List Char)
  | 0, _ => []
  | _ + 1, [] => []
  | tries + 1, c :: cs =>
      if isLetter c || isDigit c then
        let (piece, s, letters, rest) :=
          extend (if isLetter c then .word else .number) [c] false cs
        tokensOf piece s letters ++ tokensFrom tries rest
      else if isBlank c then [' '] :: tokensFrom tries cs
      else [c] :: tokensFrom tries cs

def tokens (cs : List Char) : List (List Char) :=
  let cs := cs.filter (· != '\x00')
  tokensFrom cs.length cs

end Stencil.FreeForm
