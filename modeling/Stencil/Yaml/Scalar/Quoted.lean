import Stencil.Text.Class
import Stencil.Yaml.Cursor

/-!
# Quoted text

A text in single quotes can hold its quote written twice; one in double quotes has escapes behind
backslashes. In both, the end of a line is a space, empty lines are line ends, and the blanks around
the end of a line are nothing.
-/

namespace Stencil.Yaml.Quoted

open Stencil.Text

/-! ## Escapes -/

/-- What a character behind a backslash stands for. -/
def escapes : List (Char × Char) :=
  [('0', '\x00'), ('a', '\x07'), ('b', '\x08'), ('t', '\t'), ('\t', '\t'), ('n', '\n'),
    ('v', '\x0b'), ('f', '\x0c'), ('r', '\r'), ('e', '\x1b'), (' ', ' '), ('"', '"'), ('\\', '\\'), ('/', '/'),
    ('N', '\u0085'), ('_', '\u00a0'), ('L', '\u2028'), ('P', '\u2029')]

/-- The number of hexadecimal digits behind a letter that announces a code point. -/
def digitCount? (c : Char) : Option Nat :=
  if c = 'x' then some 2 else if c = 'u' then some 4 else if c = 'U' then some 8 else none

/-- The character with a code point; refused past the last one. -/
def charOf (n : Nat) : Except Failure Char :=
  if 0x10FFFF < n then .error .badValue
  else if 0xD800 ≤ n ∧ n < 0xE000 then .ok '\uFFFD'
  else .ok (Char.ofNat n)

def codePoint (count : Nat) (c : Cursor) : Except Failure (Char × Cursor) := do
  let values := (c.rest.take count).map hexValue?
  if values.length = count ∧ values.all Option.isSome then
    let n := values.foldl (fun n v => n * 16 + v.getD 0) 0
    .ok (← charOf n, c.advance count)
  else .error .notYaml

/-! ## The parts of a text -/

/-- The line ends of empty lines, and the place of what follows them. -/
def breaks : (fuel : Nat) → Cursor → Except Failure (List Char × Cursor)
  | 0, c => .ok ([], c)
  | fuel + 1, c =>
      if c.atDocumentMark then .error .notYaml
      else
        let c := c.skipWhile isSpaceOrTab
        match c.lineEnd? with
        | some (b, c) => do
            let (bs, c) ← breaks fuel c
            .ok (b :: bs, c)
        | none => .ok ([], c)

/-- What the end of a line and the empty lines behind it stand for. -/
def folded (b : Char) (bs : List Char) : List Char :=
  (if b ≠ '\n' then [b] else if bs.isEmpty then [' '] else []) ++ bs

/-- A character that neither quotes, nor escapes, nor is blank. -/
def isOrdinary (c : Char) : Bool := c != '\'' && c != '"' && c != '\\' && !isGapOrEnd c

/-- The characters up to the next blank or the closing quote. -/
def word (double : Bool) : (fuel : Nat) → Cursor → Except Failure (List Char × Cursor)
  | 0, c => .ok ([], c)
  | fuel + 1, c => do
      let (cs, c) := c.takeWhile isOrdinary
      let goOn := fun (more : List Char) (c : Cursor) => do
        let (rest, c) ← word double fuel c
        .ok (cs ++ more ++ rest, c)
      let ch := c.head
      if !double && ch == '\'' && c.peek 1 == '\'' then goOn ['\''] (c.advance 2)
      else if (double && ch == '\'') || (!double && (ch == '"' || ch == '\\')) then goOn [ch] c.next
      else if double && ch == '\\' then
        let c := c.next
        match escapes.lookup c.head, digitCount? c.head, c.lineEnd? with
        | some d, _, _ => goOn [d] c.next
        | none, some count, _ => do
            let (d, c) ← codePoint count c.next
            goOn [d] c
        | none, none, some (_, c) => do
            let (bs, c) ← breaks (c.rest.length + 1) c
            goOn bs c
        | none, none, none => .error .notYaml
      else .ok (cs, c)

/-- The blanks between two words, which may be the end of a line. -/
def gap (c : Cursor) : Except Failure (List Char × Cursor) :=
  let (blanks, c) := c.takeWhile isSpaceOrTab
  if c.rest.isEmpty then .error .notYaml
  else match c.lineEnd? with
    | some (b, c) => do
        let (bs, c) ← breaks (c.rest.length + 1) c
        .ok (folded b bs, c)
    | none => .ok (blanks, c)

def inside (double : Bool) : (fuel : Nat) → Cursor → Except Failure (List Char × Cursor)
  | 0, _ => .error .notYaml
  | fuel + 1, c => do
      let (cs, c) ← word double (c.rest.length + 1) c
      if c.head = (if double then '"' else '\'') then .ok (cs, c.next)
      else do
        let (blanks, c) ← gap c
        let (rest, c) ← inside double fuel c
        .ok (cs ++ blanks ++ rest, c)

def read (c : Cursor) : Except Failure (List Char × Cursor) :=
  inside (c.head == '"') (c.rest.length + 1) c.next

end Stencil.Yaml.Quoted
