import Stencil.Regex.Basic

/-!
# Matching by trying in order

A match is looked for by trying what an expression allows in order of preference and going on with
the rest of the expression; the first way that reaches the end is the match. The rest of the
expression is a function of the place reached, so giving up a choice is nothing but that function
answering none.

Every definition is by recursion on the expression. A repetition without a bound tries at most as
many rounds as there are characters left, because a round that takes no character is the last one.
-/

namespace Stencil.Regex

/-- A place in a text: the character before it, its distance from the start, the text behind it, and
what the groups have matched on the way, latest first. -/
structure Place where
  before : Option Char
  pos : Nat
  rest : List Char
  groups : List (String × List Char)
deriving DecidableEq, Repr

def Place.ofText (cs : List Char) : Place := ⟨none, 0, cs, []⟩

/-- What is left to match from a place on. -/
abbrev Continue := Place → Option Place

/-- The place behind one character of a class. -/
def Place.step? (c : CharClass) (p : Place) : Option Place :=
  match p.rest with
  | [] => none
  | d :: rest =>
      if c.holds d then some { p with before := some d, pos := p.pos + 1, rest } else none

/-- Whether a word begins or ends at a place. -/
def Place.atWordEdge (p : Place) : Bool :=
  let inWord := fun (c : Option Char) => (c.map Text.isWordChar).getD false
  inWord p.before != inWord p.rest.head?

/-- The place with the text from `p` to `q` kept for a group. -/
def Place.keep (name : String) (p q : Place) : Place :=
  { q with groups := (name, p.rest.take (q.pos - p.pos)) :: q.groups }

/-- Rounds of `step`, at least `least` and at most `rounds` of them. -/
def rounds (step : Place → Continue → Option Place) (greedy : Bool) (k : Continue) :
    (most least : Nat) → Place → Option Place
  | 0, _, p => k p
  | most + 1, least + 1, p => step p fun q => rounds step greedy k most least q
  | most + 1, 0, p =>
      let again := fun (_ : Unit) =>
        step p fun q => if q.pos = p.pos then k q else rounds step greedy k most 0 q
      if greedy then
        match again () with
        | some q => some q
        | none => k p
      else
        match k p with
        | some q => some q
        | none => again ()

/-- The first way to match an expression at a place that lets the rest succeed. -/
def run : Regex → Place → Continue → Option Place
  | .empty, p, k => k p
  | .one c, p, k => (p.step? c).bind k
  | .seq a b, p, k => run a p fun q => run b q k
  | .alt a b, p, k =>
      match run a p k with
      | some q => some q
      | none => run b p k
  | .repeat r least most greedy, p, k =>
      let bound := match most with
        | some m => m
        | none => least + p.rest.length
      rounds (run r) greedy k bound least p
  | .group name r, p, k => run r p fun q => k (p.keep name q)
  | .ahead refused r, p, k => if (run r p some).isSome != refused then k p else none
  | .wordEdge refused, p, k => if p.atWordEdge != refused then k p else none
  | .start, p, k => if p.pos = 0 then k p else none
  | .stop, p, k => if p.rest = [] then k p else none
  | .lastLine, p, k => if p.rest = [] ∨ p.rest = ['\n'] then k p else none

/-! ## Matches -/

/-- A match: where it begins and ends, its text, and the texts of its groups. -/
structure Match where
  start : Nat
  stop : Nat
  text : List Char
  groups : List (String × List Char)
deriving DecidableEq, Repr

def Match.group? (m : Match) (name : String) : Option (List Char) := m.groups.lookup name

/-- The match from a place to another. -/
def Match.between (p q : Place) : Match :=
  ⟨p.pos, q.pos, p.rest.take (q.pos - p.pos), q.groups⟩

/-- The match of a whole text. -/
def fullMatch? (r : Regex) (cs : List Char) : Option Match :=
  let p := Place.ofText cs
  (r.run p fun q => if q.rest = [] then some q else none).map (Match.between p)

/-- The end of the match that begins at a place; an empty one only if `emptyAllowed`. -/
def matchAt? (r : Regex) (emptyAllowed : Bool) (p : Place) : Option Place :=
  r.run p fun q => if !emptyAllowed && q.pos == p.pos then none else some q

/-- The first match at a place or behind it; an empty one at the place itself only if
`emptyAllowed`. It is given as the place where it begins and the place where it ends. -/
def findFrom? (r : Regex) (emptyAllowed : Bool) (before : Option Char) (pos : Nat) :
    (rest : List Char) → Option (Place × Place)
  | [] => (matchAt? r emptyAllowed ⟨before, pos, [], []⟩).map fun q => (⟨before, pos, [], []⟩, q)
  | c :: rest =>
      let p : Place := ⟨before, pos, c :: rest, []⟩
      match matchAt? r emptyAllowed p with
      | some q => some (p, q)
      | none => findFrom? r true (some c) (pos + 1) rest

/-- The matches behind a place, from left to right, `tries` of them at most. Behind an empty match
the next one must not be empty at the same place. -/
def matchesFrom (r : Regex) : (tries : Nat) → (emptyAllowed : Bool) → Place → List Match
  | 0, _, _ => []
  | tries + 1, emptyAllowed, p =>
      match findFrom? r emptyAllowed p.before p.pos p.rest with
      | none => []
      | some (a, b) =>
          Match.between a b ::
            matchesFrom r tries (a.pos != b.pos) { b with groups := [] }

/-- All matches in a text that do not overlap, from left to right. -/
def allMatches (r : Regex) (cs : List Char) : List Match :=
  matchesFrom r (2 * cs.length + 2) true (Place.ofText cs)

/-- The text outside of the given matches. -/
def outside : (pos : Nat) → List Match → List Char → List Char
  | _, [], cs => cs
  | pos, m :: ms, cs =>
      cs.take (m.start - pos) ++ outside m.stop ms (cs.drop (m.stop - pos))

def erase (r : Regex) (cs : List Char) : List Char := outside 0 (r.allMatches cs) cs

end Stencil.Regex
