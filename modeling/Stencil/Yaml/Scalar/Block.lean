import Stencil.Yaml.Cursor

/-!
# Block text

Text in indented lines behind a bar or an angle. Behind a bar the ends of lines are kept; behind an
angle an end between two lines that do not begin with blanks is a space. Signs say whether the line
ends at the end are dropped, kept or reduced to one, and a digit gives the indentation.
-/

namespace Stencil.Yaml.Block

/-- What becomes of the line ends at the end. -/
inductive Chomping
  | drop | one | keep
deriving DecidableEq

/-- The sign for a way of treating the line ends at the end. -/
def sign? (c : Char) : Option Chomping :=
  if c = '+' then some .keep else if c = '-' then some .drop else none

/-- The digit that gives an indentation, which is not zero; none if there is no digit. -/
def digit? (c : Char) : Except Failure (Option Nat) :=
  if c.isDigit then
    if c = '0' then .error .notYaml else .ok (some (c.toNat - 0x30))
  else .ok none

/-- The signs behind the bar or angle, in either order, and the rest of their line. -/
def header (c : Cursor) : Except Failure (Chomping × Option Nat × Cursor) := do
  let (chomping, width, c) ← match sign? c.head with
    | some chomping => do
        let c := c.next
        match ← digit? c.head with
        | some n => .ok (chomping, some n, c.next)
        | none => .ok (chomping, none, c)
    | none => do
        match ← digit? c.head with
        | some n =>
            let c := c.next
            match sign? c.head with
            | some chomping => .ok (chomping, some n, c.next)
            | none => .ok (.one, some n, c)
        | none => .ok (.one, none, c)
  if isSpaceOrEnd c.head then .ok (chomping, width, ← c.finishLine) else .error .notYaml

/-- The line ends of empty lines before the first line with text, the widest of their indentations,
and the place behind them. -/
def indentation : (fuel : Nat) → Cursor → List Char × Nat × Cursor
  | 0, c => ([], 0, c)
  | fuel + 1, c =>
      let c := c.skipSpaces
      let here := c.column
      match c.lineEnd? with
      | some (b, c) =>
          let (bs, widest, c) := indentation fuel c
          (b :: bs, max here widest, c)
      | none => ([], here, c)

def skipIndent (indent : Nat) (c : Cursor) : Cursor :=
  c.advance (min (indent - c.column) (c.rest.takeWhile (· == ' ')).length)

/-- The line ends of empty lines, and the place behind them and the indentation. -/
def breaks (indent : Nat) : (fuel : Nat) → Cursor → List Char × Cursor
  | 0, c => ([], c)
  | fuel + 1, c =>
      let c := skipIndent indent c
      match c.lineEnd? with
      | some (b, c) =>
          let (bs, c) := breaks indent fuel c
          (b :: bs, c)
      | none => ([], c)

/-- Lines with text: what they hold, the end of the last of them, the empty lines behind it, and the
place behind those. `before` holds the ends of the empty lines before the first. -/
def lines (foldsLines : Bool) (indent : Nat) :
    (fuel : Nat) → (before : List Char) → Cursor → List Char × List Char × List Char × Cursor
  | 0, before, c => ([], [], before, c)
  | fuel + 1, before, c =>
      let leadsText := !isSpaceOrTab c.head
      let (cs, c) := c.takeWhile fun ch => !isBreak ch
      let (ending, c) := match c.lineEnd? with
        | some (b, c) => ([b], c)
        | none => ([], c)
      let (bs, c) := breaks indent (c.rest.length + 1) c
      if c.column = indent ∧ !c.rest.isEmpty then
        let joint :=
          if foldsLines && ending == ['\n'] && leadsText && !isSpaceOrTab c.head then
            if bs.isEmpty then [' '] else []
          else ending
        let (rest, last, after, c) := lines foldsLines indent fuel bs c
        (before ++ cs ++ joint ++ rest, last, after, c)
      else (before ++ cs, ending, bs, c)

/-- The text behind the bar or angle at a place, where `outer` is the indentation around it. -/
def read (outer : Int) (c : Cursor) : Except Failure (List Char × Cursor) := do
  let foldsLines := c.head == '>'
  let (chomping, width, c) ← header c.next
  let least := max (outer + 1).toNat 1
  let (before, indent, c) := match width with
    | none =>
        let (bs, widest, c) := indentation (c.rest.length + 1) c
        (bs, max least widest, c)
    | some n =>
        let indent := least + n - 1
        let (bs, c) := breaks indent (c.rest.length + 1) c
        (bs, indent, c)
  let (text, ending, after, c) :=
    if c.column = indent ∧ !c.rest.isEmpty then lines foldsLines indent (c.rest.length + 1) before c
    else ([], [], before, c)
  .ok (text ++ (match chomping with
    | .drop => []
    | .one => ending
    | .keep => ending ++ after), c)

end Stencil.Yaml.Block
