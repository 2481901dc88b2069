import Stencil.Failure
import Stencil.Html.EntityTable
import Stencil.Number.Numeral

/-!
# Character references

Writing replaces the five characters that markup gives a meaning. Reading understands every named
character, also without its semicolon where that is allowed and with further letters behind it, and
numbers in both bases. Numbers that stand for no character give a replacement character, those of
the old Windows code page the character meant there, and those that must not be used nothing.
-/

namespace Stencil.Html

open Stencil.Text

/-! ## Writing -/

/-- What stands for a character in markup. -/
def escapeChar (c : Char) : List Char :=
  match c with
  | '&' => "&amp;".toList
  | '<' => "&lt;".toList
  | '>' => "&gt;".toList
  | '"' => "&quot;".toList
  | '\'' => "&#x27;".toList
  | c => [c]

/-- A text as it stands in markup. -/
def escape (cs : List Char) : List Char := cs.flatMap escapeChar

/-! ## The named characters -/

def hexNumber (cs : List Char) : Nat := cs.foldl (fun n c => n * 16 + (hexValue? c).getD 0) 0

/-- An entry of the table: a name and the characters it stands for. -/
def entry (cs : List Char) : List Char × List Char :=
  let name := cs.takeWhile (· != '=')
  (name, (splitOn ',' (cs.drop (name.length + 1))).map fun ds => Char.ofNat (hexNumber ds))

/-- The characters that a name stands for. -/
def named? (name : List Char) : Option (List Char) :=
  match name with
  | [] => none
  | c :: _ =>
      ((namesWith c).flatMap fun line => (splitOn ' ' line.toList).map entry).lookup name

/-- The longest beginning of a name, at most `count` characters and at least two, that is a name
itself, with what is behind it. -/
def longestNamed? (name : List Char) : (count : Nat) → Option (List Char × List Char)
  | 0 | 1 => none
  | count + 2 =>
      match named? (name.take (count + 2)) with
      | some cs => some (cs, name.drop (count + 2))
      | none => longestNamed? name (count + 1)

/-- What a name stands for; a name that is none stands for itself. -/
def namedText (name : List Char) : List Char :=
  match named? name with
  | some cs => cs
  | none =>
      match longestNamed? name (name.length - 1) with
      | some (cs, rest) => cs ++ rest
      | none => '&' :: name

/-! ## Numbers -/

/-- The characters that the numbers from 128 to 159 are meant for. -/
def windowsPoints : List Nat :=
  [0x20AC, 0x81, 0x201A, 0x192, 0x201E, 0x2026, 0x2020, 0x2021, 0x2C6, 0x2030, 0x160, 0x2039, 0x152,
    0x8D, 0x17D, 0x8F, 0x90, 0x2018, 0x2019, 0x201C, 0x201D, 0x2022, 0x2013, 0x2014, 0x2DC, 0x2122,
    0x161, 0x203A, 0x153, 0x9D, 0x17E, 0x178]

def isForbidden (n : Nat) : Bool :=
  (1 ≤ n && n ≤ 8) || n == 0xB || (0xE ≤ n && n ≤ 0x1F) || (0x7F ≤ n && n ≤ 0x9F) ||
    (0xFDD0 ≤ n && n ≤ 0xFDEF) || n % 0x10000 == 0xFFFE || n % 0x10000 == 0xFFFF

/-- What a number stands for. -/
def numbered (n : Nat) : List Char :=
  if n = 0 then ['\uFFFD']
  else if 0x80 ≤ n ∧ n ≤ 0x9F then [Char.ofNat (windowsPoints.getD (n - 0x80) n)]
  else if (0xD800 ≤ n ∧ n ≤ 0xDFFF) ∨ 0x10FFFF < n then ['\uFFFD']
  else if isForbidden n then []
  else [Char.ofNat n]

/-! ## Reading -/

def dropSemicolon : List Char → List Char
  | ';' :: cs => cs
  | cs => cs

/-- A character that can be part of a name. -/
def isNameChar (c : Char) : Bool :=
  !(c == '\t' || c == '\n' || c == '\x0c' || c == ' ' || c == '<' || c == '&' || c == '#' ||
    c == ';')

/-- The text of the reference behind an ampersand, and what follows it; none if there is none. -/
def reference? (cs : List Char) : Except Failure (Option (List Char × List Char)) :=
  match cs with
  | '#' :: rest =>
      let digits := rest.takeWhile Char.isDigit
      if !digits.isEmpty then
        if Numeral.maxDigits < digits.length then .error .badValue
        else
          .ok (some (numbered (Numeral.digitsValue digits),
            dropSemicolon (rest.dropWhile Char.isDigit)))
      else
        match rest with
        | x :: rest =>
            let isHex := fun c => (hexValue? c).isSome
            let digits := rest.takeWhile isHex
            if (x = 'x' ∨ x = 'X') ∧ !digits.isEmpty then
              .ok (some (numbered (hexNumber digits), dropSemicolon (rest.dropWhile isHex)))
            else .ok none
        | [] => .ok none
  | cs =>
      let name := (cs.takeWhile isNameChar).take 32
      if name.isEmpty then .ok none
      else
        match cs.drop name.length with
        | ';' :: rest => .ok (some (namedText (name ++ [';']), rest))
        | rest => .ok (some (namedText name, rest))

/-- The text with its references read, `tries` characters and references at most. -/
def unescapeFrom : (tries : Nat) → List Char → Except Failure (List Char)
  | 0, cs => .ok cs
  | _ + 1, [] => .ok []
  | tries + 1, c :: cs =>
      if c = '&' then do
        match ← reference? cs with
        | some (text, rest) => .ok (text ++ (← unescapeFrom tries rest))
        | none => .ok ('&' :: (← unescapeFrom tries cs))
      else do .ok (c :: (← unescapeFrom tries cs))

def unescape (cs : List Char) : Except Failure (List Char) := unescapeFrom cs.length cs

end Stencil.Html
