import Stencil.Failure
import Stencil.Regex.Basic
import Stencil.Text.Trim

/-!
# Reading regular expressions

The usual notation: characters that stand for themselves, escapes, classes in brackets, groups with
and without names, alternatives, repetitions that take as much or as little as possible, and places
that are looked at without taking anything.
-/

namespace Stencil.Regex

open Stencil.Text

/-! ## Escapes -/

/-- The character that a letter after a backslash stands for. -/
def controlEscape? (c : Char) : Option Char :=
  match c with
  | 'n' => some '\n'
  | 't' => some '\t'
  | 'r' => some '\r'
  | 'f' => some '\x0c'
  | 'v' => some '\x0b'
  | 'a' => some '\x07'
  | '0' => some '\x00'
  | _ => none

/-- The class that a letter after a backslash stands for. -/
def classEscape? (c : Char) : Option Member :=
  match c with
  | 's' => some (.blank false)
  | 'S' => some (.blank true)
  | 'w' => some (.word false)
  | 'W' => some (.word true)
  | 'd' => some (.digit false)
  | 'D' => some (.digit true)
  | _ => none

/-- A character given by `count` hexadecimal digits. -/
def hexEscape? (count : Nat) (cs : List Char) : Option (Char × List Char) :=
  let digits := (cs.take count).filterMap hexValue?
  if digits.length = count then
    some (Char.ofNat (digits.foldl (fun n d => n * 16 + d) 0), cs.drop count)
  else none

/-- The single character that an escape stands for, behind its backslash. -/
def charEscape? : List Char → Option (Char × List Char)
  | [] => none
  | 'x' :: cs => hexEscape? 2 cs
  | 'u' :: cs => hexEscape? 4 cs
  | c :: cs =>
      match controlEscape? c with
      | some d => some (d, cs)
      | none => if c.toNat < 0x80 && c.isAlphanum then none else some (c, cs)

/-- What an escape outside of brackets matches, behind its backslash. -/
def escape? : List Char → Option (Regex × List Char)
  | 'b' :: cs => some (.wordEdge false, cs)
  | 'B' :: cs => some (.wordEdge true, cs)
  | 'A' :: cs => some (.start, cs)
  | 'Z' :: cs => some (.stop, cs)
  | cs =>
      match cs with
      | c :: rest =>
          match classEscape? c with
          | some m => some (oneOf [m], rest)
          | none => (charEscape? cs).map fun (d, rest) => (.one (.one d), rest)
      | [] => none

/-! ## Classes in brackets -/

def classItem? : List Char → Option (Member × List Char)
  | [] => none
  | '\\' :: 'b' :: cs => some (.one '\x08', cs)
  | '\\' :: cs =>
      match cs with
      | c :: rest =>
          match classEscape? c with
          | some m => some (m, rest)
          | none => (charEscape? cs).map fun (d, rest) => (.one d, rest)
      | [] => none
  | c :: cs => some (.one c, cs)

/-- The members of a class up to the closing bracket, and the text behind it. -/
def classMembers? : (fuel : Nat) → (atStart : Bool) → List Char → Option (List Member × List Char)
  | 0, _, _ => none
  | fuel + 1, atStart, cs =>
      match cs, atStart with
      | ']' :: rest, false => some ([], rest)
      | cs, _ => do
          let (item, rest) ← classItem? cs
          match item, rest with
          | .one a, '-' :: ']' :: rest =>
              some ([.one a, .one '-'], rest)
          | .one a, '-' :: more => do
              let (last, rest) ← classItem? more
              match last with
              | .one b =>
                  if a ≤ b then
                    let (members, rest) ← classMembers? fuel false rest
                    some (.range a b :: members, rest)
                  else none
              | _ => none
          | item, rest => do
              let (members, rest) ← classMembers? fuel false rest
              some (item :: members, rest)

def bracketClass? : List Char → Option (Regex × List Char)
  | '^' :: cs => do
      let (members, rest) ← classMembers? (cs.length + 1) true cs
      some (noneOf members, rest)
  | cs => do
      let (members, rest) ← classMembers? (cs.length + 1) true cs
      some (oneOf members, rest)

/-! ## Repetitions -/

/-- A decimal number, if the text begins with one. -/
def count? (cs : List Char) : Option Nat × List Char :=
  let digits := cs.takeWhile Char.isDigit
  let n := digits.foldl (fun n d => n * 10 + (d.toNat - 0x30)) 0
  (if digits.isEmpty then none else some n, cs.dropWhile Char.isDigit)

/-- The bounds in braces, behind the opening brace. -/
def braceBounds? (cs : List Char) : Option ((Nat × Option Nat) × List Char) :=
  let (least, rest) := count? cs
  match least, rest with
  | some n, '\x7d' :: rest => some ((n, some n), rest)
  | least, ',' :: rest =>
      let (most, rest) := count? rest
      match rest with
      | '\x7d' :: rest => some ((least.getD 0, most), rest)
      | _ => none
  | _, _ => none

/-- The bounds of a repetition, if the text begins with one. -/
def bounds? : List Char → Option ((Nat × Option Nat) × List Char)
  | '*' :: cs => some ((0, none), cs)
  | '+' :: cs => some ((1, none), cs)
  | '?' :: cs => some ((0, some 1), cs)
  | '\x7b' :: cs => braceBounds? cs
  | _ => none

/-- An expression with the repetition that follows it. -/
def repeated (r : Regex) (cs : List Char) : Regex × List Char :=
  match bounds? cs with
  | none => (r, cs)
  | some ((least, most), '?' :: rest) => (.repeat r least most false, rest)
  | some ((least, most), rest) => (.repeat r least most true, rest)

/-! ## Expressions -/

/-- The name of a group up to its closing bracket. -/
def groupName? (cs : List Char) : Option (String × List Char) :=
  match cs.dropWhile (· != '>') with
  | '>' :: rest => some (String.ofList (cs.takeWhile (· != '>')), rest)
  | _ => none

mutual

/-- Alternatives up to a closing parenthesis or the end. -/
def alternatives? (dotAll : Bool) : (fuel : Nat) → List Char → Option (Regex × List Char)
  | 0, _ => none
  | fuel + 1, cs => do
      let (r, rest) ← sequence? dotAll fuel cs
      match rest with
      | '|' :: rest => do
          let (s, rest) ← alternatives? dotAll fuel rest
          some (.alt r s, rest)
      | rest => some (r, rest)

/-- Repeated atoms up to a bar, a closing parenthesis or the end. -/
def sequence? (dotAll : Bool) : (fuel : Nat) → List Char → Option (Regex × List Char)
  | 0, _ => none
  | _ + 1, [] => some (.empty, [])
  | fuel + 1, c :: cs =>
      if c = '|' ∨ c = ')' then some (.empty, c :: cs)
      else do
        let (atom, rest) ← atom? dotAll fuel (c :: cs)
        let (r, rest) := repeated atom rest
        let (s, rest) ← sequence? dotAll fuel rest
        some (.seq r s, rest)

/-- What a repetition can follow. -/
def atom? (dotAll : Bool) : (fuel : Nat) → List Char → Option (Regex × List Char)
  | 0, _ => none
  | _ + 1, [] => none
  | fuel + 1, c :: cs =>
      match c with
      | '(' => groupBody? dotAll fuel cs
      | '[' => bracketClass? cs
      | '\\' => escape? cs
      | '.' => some (.one (if dotAll then .every else .inLine), cs)
      | '^' => some (.start, cs)
      | '$' => some (.lastLine, cs)
      | '*' | '+' | '?' => none
      | c => some (.one (.one c), cs)

/-- A group, behind its opening parenthesis. -/
def groupBody? (dotAll : Bool) : (fuel : Nat) → List Char → Option (Regex × List Char)
  | 0, _ => none
  | fuel + 1, cs => do
      let (wrap, body) ← match cs with
        | '?' :: ':' :: cs => some ((fun r => r), cs)
        | '?' :: '=' :: cs => some (Regex.ahead false, cs)
        | '?' :: '!' :: cs => some (Regex.ahead true, cs)
        | '?' :: 'P' :: '<' :: cs =>
            (groupName? cs).map fun (name, rest) => (Regex.group name, rest)
        | '?' :: _ => none
        | cs => some ((fun r => r), cs)
      let (r, rest) ← alternatives? dotAll fuel body
      match rest with
      | ')' :: rest => some (wrap r, rest)
      | _ => none

end

/-- The expression that a text spells; none if it spells none. -/
def read? (cs : List Char) : Option Regex := do
  let (dotAll, body) := match afterPhrase? "(?s)".toList cs with
    | some rest => (true, rest)
    | none => (false, cs)
  let (r, rest) ← alternatives? dotAll (4 * cs.length + 4) body
  if rest.isEmpty then some r else none

end Stencil.Regex
