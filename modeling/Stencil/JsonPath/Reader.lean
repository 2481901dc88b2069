import Stencil.JsonPath.Basic
import Stencil.JsonPath.Token

/-!
# Reading paths

Operators bind in a fixed order, each more tightly than the one before: two dots, one dot, the bar,
and the two words for conditions; operators of one rank group to the left. Brackets behind a path
belong to everything in front of them.
-/

namespace Stencil.JsonPath

/-- How tightly a token binds as an operator, and what it makes of two paths. -/
def Token.operator? : Token → Option (Nat × (JsonPath → JsonPath → JsonPath))
  | .twoDots => some (2, .descendants)
  | .mark '.' => some (3, .child)
  | .mark '|' => some (4, .union)
  | .having => some (6, .having)
  | .lacking => some (7, .lacking)
  | _ => none

/-! ## Brackets -/

/-- Names with commas between them, behind the first. -/
def moreNames : List Token → List String × List Token
  | .mark ',' :: .name s :: rest =>
      let (names, rest) := moreNames rest
      (s :: names, rest)
  | ts => ([], ts)

/-- Numbers with commas between them, behind the first. -/
def moreNumbers : List Token → List Int × List Token
  | .mark ',' :: .number n :: rest =>
      let (numbers, rest) := moreNumbers rest
      (n :: numbers, rest)
  | ts => ([], ts)

def optionalNumber : List Token → Option Int × List Token
  | .number n :: rest => (some n, rest)
  | ts => (none, ts)

/-- The places of a slice behind its first colon. -/
def sliceFrom (start : Option Int) (ts : List Token) : JsonPath × List Token :=
  let (stop, ts) := optionalNumber ts
  match ts with
  | .mark ':' :: rest =>
      let (step, rest) := optionalNumber rest
      (.slice start stop step, rest)
  | ts => (.slice start stop none, ts)

/-- What stands inside brackets. -/
def inBrackets? : List Token → Option (JsonPath × List Token)
  | .name s :: rest =>
      let (names, rest) := moreNames rest
      some (.fields (s :: names), rest)
  | .mark '*' :: rest => some (.slice none none none, rest)
  | .mark ':' :: rest => some (sliceFrom none rest)
  | .number n :: .mark ':' :: rest => some (sliceFrom (some n) rest)
  | .number n :: rest =>
      let (numbers, rest) := moreNumbers rest
      some (.index (n :: numbers), rest)
  | _ => none

/-- The path inside brackets that have been opened, and what is behind the closing bracket. -/
def bracketed? (ts : List Token) : Option (JsonPath × List Token) :=
  match inBrackets? ts with
  | some (p, .mark ']' :: rest) => some (p, rest)
  | _ => none

/-! ## Paths -/

/-- The keys that a bare number stands for: one for each of its characters. -/
def numberNames (n : Int) : List String := (toString n).toList.map String.singleton

mutual

/-- A path without operators. -/
def simple? : (fuel : Nat) → List Token → Option (JsonPath × List Token)
  | 0, _ => none
  | fuel + 1, ts =>
      match ts with
      | .mark '$' :: rest => some (.root, rest)
      | .mark '*' :: rest => some (.fields ["*"], rest)
      | .name s :: rest =>
          let (names, rest) := moreNames rest
          some (.fields (s :: names), rest)
      | .number n :: rest => some (.fields (numberNames n), rest)
      | .operator "this" :: rest => some (.this, rest)
      | .operator "parent" :: rest => some (.parent, rest)
      | .mark '[' :: rest => bracketed? rest
      | .mark '(' :: rest =>
          match whole? fuel rest with
          | some (p, .mark ')' :: rest) => some (p, rest)
          | _ => none
      | _ => none

/-- A path whose operators bind more tightly than `rank`. -/
def tighter? (rank : Nat) : (fuel : Nat) → List Token → Option (JsonPath × List Token)
  | 0, _ => none
  | fuel + 1, ts => do
      let (p, rest) ← simple? fuel ts
      extended? rank fuel p rest

/-- The path `p` with the operators behind it that bind more tightly than `rank`. -/
def extended? (rank : Nat) : (fuel : Nat) → JsonPath → List Token → Option (JsonPath × List Token)
  | 0, _, _ => none
  | _ + 1, p, [] => some (p, [])
  | fuel + 1, p, t :: rest =>
      match t.operator? with
      | some (r, combine) =>
          if rank < r then
            match tighter? r fuel rest with
            | some (q, rest) => extended? rank fuel (combine p q) rest
            | none => none
          else some (p, t :: rest)
      | none => some (p, t :: rest)

/-- A path with all its operators and brackets. -/
def whole? : (fuel : Nat) → List Token → Option (JsonPath × List Token)
  | 0, _ => none
  | fuel + 1, ts => do
      let (p, rest) ← tighter? 0 fuel ts
      withBrackets? fuel p rest

/-- The path `p` with the brackets behind it and all that follows them. -/
def withBrackets? : (fuel : Nat) → JsonPath → List Token → Option (JsonPath × List Token)
  | 0, _, _ => none
  | fuel + 1, p, ts =>
      match ts with
      | .mark '[' :: rest => do
          let (q, rest) ← bracketed? rest
          let (p, rest) ← extended? 0 fuel (.child p q) rest
          withBrackets? fuel p rest
      | ts => some (p, ts)

end

def read (cs : List Char) : Except Fault JsonPath := do
  let ts ← tokens cs
  match whole? (4 * ts.length + 4) ts with
  | some (p, []) => .ok p
  | _ => .error .form

end Stencil.JsonPath
