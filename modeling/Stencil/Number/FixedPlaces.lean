import Stencil.Number.Shortest

/-!
# Numbers with fixed places

A number with a fixed count of digits after the point, rounded from its exact value with a tie going
to the even digit, and its whole part grouped by thousands.
-/

namespace Stencil

/-- Digits with a comma before every group of three, counted from the right. -/
def groupThousands (ds : List Char) : List Char :=
  match ds with
  | [] => []
  | d :: rest =>
      if rest.length % 3 = 0 ∧ rest ≠ [] then d :: ',' :: groupThousands rest
      else d :: groupThousands rest

namespace Binary64

/-- The number with two digits after the point and its whole part grouped by thousands. -/
def toGroupedHundredths : Binary64 → List Char
  | .nan => ['n', 'a', 'n']
  | .infinite negative => (if negative then ['-'] else []) ++ ['i', 'n', 'f']
  | .finite negative m e =>
      let (num, den) := ratio m e
      let hundredths := roundHalfEven (num * 100) den
      let cents := hundredths % 100
      (if negative then ['-'] else []) ++ groupThousands (digitsOf (hundredths / 100)) ++
        '.' :: (digitsOf (cents / 10) ++ digitsOf (cents % 10))

end Binary64

end Stencil
