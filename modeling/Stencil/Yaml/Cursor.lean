import Stencil.Failure

/-!
# Places in a document

A place knows the text behind it and its line and column. Behind the end of a text stands the null
character, which no document may hold.
-/

namespace Stencil.Yaml

/-! ## Classes of characters -/

/-- The character that stands behind the end. -/
def endMark : Char := '\x00'

def isBreak (c : Char) : Bool :=
  c == '\n' || c == '\r' || c == '\x85' || c == '\u2028' || c == '\u2029'

/-- A character that ends a line, or the end. -/
def isBreakOrEnd (c : Char) : Bool := c == endMark || isBreak c

/-- A space, the end of a line or the end. -/
def isSpaceOrEnd (c : Char) : Bool := c == ' ' || isBreakOrEnd c

def isSpaceOrTab (c : Char) : Bool := c == ' ' || c == '\t'

/-- What separates tokens: a space, a tab, the end of a line or the end. -/
def isGapOrEnd (c : Char) : Bool := c == '\t' || isSpaceOrEnd c

/-- A letter, a digit, a hyphen or a low line. -/
def isNameChar (c : Char) : Bool := c.isAlphanum || c == '-' || c == '_'

/-- A character that a document may hold. -/
def isAllowed (c : Char) : Bool :=
  let n := c.toNat
  n == 0x09 || n == 0x0A || n == 0x0D || (0x20 ≤ n && n ≤ 0x7E) || n == 0x85 ||
    (0xA0 ≤ n && n ≤ 0xFFFD) || 0x10000 ≤ n

/-! ## Places -/

structure Cursor where
  rest : List Char
  index : Nat
  line : Nat
  column : Nat

namespace Cursor

def ofText (cs : List Char) : Cursor := ⟨cs, 0, 0, 0⟩

def head (c : Cursor) : Char := c.rest.head?.getD endMark

/-- The character `k` places on. -/
def peek (c : Cursor) (k : Nat) : Char := (c.rest[k]?).getD endMark

def next (c : Cursor) : Cursor :=
  match c.rest with
  | [] => c
  | ch :: rest =>
      if isBreak ch && !(ch == '\r' && rest.head? == some '\n') then
        ⟨rest, c.index + 1, c.line + 1, 0⟩
      else ⟨rest, c.index + 1, c.line, if ch = '\uFEFF' then c.column else c.column + 1⟩

def advance : (n : Nat) → Cursor → Cursor
  | 0, c => c
  | n + 1, c => advance n c.next

def takeWhile (p : Char → Bool) (c : Cursor) : List Char × Cursor :=
  let cs := c.rest.takeWhile p
  (cs, c.advance cs.length)

def skipWhile (p : Char → Bool) (c : Cursor) : Cursor := (c.takeWhile p).2

def skipSpaces (c : Cursor) : Cursor := c.skipWhile (· == ' ')

/-- The end of a line at a place, and the place behind it. All but two of the ends are line
feeds. -/
def lineEnd? (c : Cursor) : Option (Char × Cursor) :=
  match c.rest with
  | '\r' :: '\n' :: _ => some ('\n', c.advance 2)
  | ch :: _ =>
      if isBreak ch then
        some (if ch = '\u2028' ∨ ch = '\u2029' then ch else '\n', c.next)
      else none
  | [] => none

/-- Whether a place begins a mark between documents. -/
def isDocumentMark (mark : Char) (c : Cursor) : Bool :=
  c.head == mark && c.peek 1 == mark && c.peek 2 == mark && isGapOrEnd (c.peek 3)

def atDocumentMark (c : Cursor) : Bool := c.isDocumentMark '-' || c.isDocumentMark '.'

def skipComment (c : Cursor) : Cursor :=
  if c.head = '#' then c.skipWhile fun ch => !isBreak ch else c

/-- The place behind the rest of a line that holds nothing but spaces and a comment. -/
def finishLine (c : Cursor) : Except Failure Cursor :=
  let c := c.skipSpaces.skipComment
  match c.lineEnd? with
  | some (_, c) => .ok c
  | none => if c.rest.isEmpty then .ok c else .error .notYaml

end Cursor

end Stencil.Yaml
