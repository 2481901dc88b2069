import Stencil.Text.Class

/-!
# Regular expressions

The expressions that describe tags. They say more than which texts belong to a language: the order
of alternatives and the greed of a repetition decide which of several matches is taken, and groups
say which part of the match is which.
-/

namespace Stencil

inductive Regex.Member
  | one (c : Char)
  | range (first last : Char)
  | blank (outside : Bool)
  | word (outside : Bool)
  | digit (outside : Bool)
deriving DecidableEq, Repr

inductive Regex.CharClass
  /-- Just this character. -/
  | one (c : Char)
  /-- Every character but a line feed. -/
  | inLine
  | every
  /-- The characters of some member, or all others. -/
  | set (outside : Bool) (members : List Regex.Member)
deriving DecidableEq, Repr

inductive Regex
  /-- Matches the empty text. -/
  | empty
  /-- Matches one character of a class. -/
  | one (c : Regex.CharClass)
  /-- Matches the first and then the second. -/
  | seq (first second : Regex)
  /-- Matches the first or, failing that, the second. -/
  | alt (first second : Regex)
  /-- Matches `body` from `least` to `most` times, as often or as rarely as possible. -/
  | repeat (body : Regex) (least : Nat) (most : Option Nat) (greedy : Bool)
  /-- Matches `body` and keeps the text under a name. -/
  | group (name : String) (body : Regex)
  /-- Matches the empty text where `body` matches, or where it does not. -/
  | ahead (refused : Bool) (body : Regex)
  /-- Matches the empty text where a word begins or ends, or elsewhere. -/
  | wordEdge (refused : Bool)
  /-- Matches the empty text at the start of the text. -/
  | start
  /-- Matches the empty text at the end of the text. -/
  | stop
  /-- Matches the empty text at the end of the text or before a line feed that ends it. -/
  | lastLine
deriving DecidableEq, Repr

namespace Regex

def Member.holds : Member → Char → Bool
  | .one c, d => c == d
  | .range a b, d => a ≤ d && d ≤ b
  | .blank outside, d => Text.isBlank d != outside
  | .word outside, d => Text.isWordChar d != outside
  | .digit outside, d => Text.isDigit d != outside

def CharClass.holds : CharClass → Char → Bool
  | .one c, d => c == d
  | .inLine, d => d != '\n'
  | .every, _ => true
  | .set outside members, d => (members.any (·.holds d)) != outside

/-! ## Building expressions -/

/-- Exactly these characters. -/
def literal (cs : List Char) : Regex :=
  cs.foldr (fun c r => .seq (.one (.one c)) r) .empty

/-- One after the other. -/
def all (rs : List Regex) : Regex := rs.foldr .seq .empty

def first : List Regex → Regex
  | [] => .empty
  | [r] => r
  | r :: rs => .alt r (first rs)

def oneOf (members : List Member) : Regex := .one (.set false members)

def noneOf (members : List Member) : Regex := .one (.set true members)

def blank : Regex := .one (.set false [.blank false])

/-- At most one, rather one. -/
def optional (r : Regex) : Regex := .repeat r 0 (some 1) true

/-- Any number, rather more. -/
def many (r : Regex) : Regex := .repeat r 0 none true

/-- At least one, rather more. -/
def some1 (r : Regex) : Regex := .repeat r 1 none true

/-- Any number, rather fewer. -/
def manyLazy (r : Regex) : Regex := .repeat r 0 none false

/-- At least one, rather fewer. -/
def some1Lazy (r : Regex) : Regex := .repeat r 1 none false

def hasGroup (name : String) : Regex → Bool
  | .seq a b | .alt a b => hasGroup name a || hasGroup name b
  | .repeat r .. | .ahead _ r => hasGroup name r
  | .group n r => n == name || hasGroup name r
  | _ => false

end Regex

end Stencil
