import Stencil.Text.Trim

/-!
# Date patterns written with letters

A pattern in which repeated letters stand for the parts of a date: `yyyy-MM-dd`. The groups of
letters that mean something are turned into the directives that write those parts, longer groups
first, from left to right and once only; everything else is left as it is.
-/

namespace Stencil.LetterPattern

open Stencil.Text

/-- The groups of letters and the letter of the directive that each stands for. -/
def groups : List (List Char × Char) :=
  [("yyyy".toList, 'Y'), ("MMMM".toList, 'B'), ("EEEE".toList, 'A'), ("MMM".toList, 'b'),
    ("EEE".toList, 'a'), ("yy".toList, 'y'), ("MM".toList, 'm'), ("dd".toList, 'd'),
    ("HH".toList, 'H'), ("hh".toList, 'I'), ("mm".toList, 'M'), ("ss".toList, 'S'),
    ("a".toList, 'p'), ("Z".toList, 'z'), ("z".toList, 'Z')]

/-- The group that a text begins with: its length and the letter of its directive. -/
def groupAt? (cs : List Char) : Option (Nat × Char) :=
  groups.findSome? fun (group, letter) =>
    if group.isPrefixOf cs then some (group.length, letter) else none

/-- The pattern from a place on, where the next `skip` characters belong to a group that is already
written. -/
def directivesFrom : (skip : Nat) → List Char → List Char
  | _, [] => []
  | skip + 1, _ :: cs => directivesFrom skip cs
  | 0, c :: cs =>
      match groupAt? (c :: cs) with
      | some (n, letter) => '%' :: letter :: directivesFrom (n - 1) cs
      | none => c :: directivesFrom 0 cs

/-- The pattern with its groups of letters turned into directives. -/
def directives (cs : List Char) : List Char := directivesFrom 0 cs

end Stencil.LetterPattern
