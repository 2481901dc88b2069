import Stencil.Yaml.Scalar.Block
import Stencil.Yaml.Scalar.Plain
import Stencil.Yaml.Token.Property

/-!
# Cutting a document into tokens

A token is told by its first characters and by where it stands. Whether something is a key shows
only at the colon behind it: the places where a key could have begun are kept, one for each level of
brackets, and the token for the key is put in there once the colon comes. A key must be on one line
with its colon and not far in front of it.
-/

namespace Stencil.Yaml

/-- A token that could be a key: its place among the tokens, where it stands, and whether it must be
one because nothing else can begin its line. -/
structure PossibleKey where
  number : Nat
  required : Bool
  index : Nat
  line : Nat
  column : Nat

/-- What is known while a document is cut. The indentation is that of the innermost block, -1
outside of all blocks. -/
structure Scan where
  cursor : Cursor
  tokens : Array Token
  flow : Nat
  indent : Int
  outer : List Int
  keyAllowed : Bool
  keys : List (Nat × PossibleKey)
  done : Bool

namespace Scan

/-- Nothing is read yet. -/
def ofText (cs : List Char) : Scan := ⟨.ofText cs, #[], 0, -1, [], true, [], false⟩

def push (t : Token) (s : Scan) : Scan := { s with tokens := s.tokens.push t }

/-- One more token at the place `n` among the tokens. -/
def insertAt (n : Nat) (t : Token) (s : Scan) : Scan :=
  { s with tokens := (s.tokens.extract 0 n).push t ++ s.tokens.extract n s.tokens.size }

/-- The token, and the place `n` characters on. -/
def pushMark (t : Token) (n : Nat) (s : Scan) : Scan :=
  { s.push t with cursor := s.cursor.advance n }

/-! ## Possible keys -/

/-- A key is too far from the place where its colon could stand. -/
def isStale (c : Cursor) (k : PossibleKey) : Bool := k.line != c.line || 1024 < c.index - k.index

/-- Without the keys that are too far away. -/
def dropStale (s : Scan) : Except Failure Scan :=
  let (stale, fresh) := s.keys.partition fun k => isStale s.cursor k.2
  if stale.any fun k => k.2.required then .error .notYaml else .ok { s with keys := fresh }

/-- Without the possible key on the level at hand. -/
def dropKey (s : Scan) : Except Failure Scan :=
  match s.keys.lookup s.flow with
  | some k =>
      if k.required then .error .notYaml
      else .ok { s with keys := s.keys.filter fun k => k.1 != s.flow }
  | none => .ok s

/-- With the next token as a possible key. -/
def saveKey (s : Scan) : Except Failure Scan :=
  if s.keyAllowed then do
    let s ← s.dropKey
    let c := s.cursor
    let key : PossibleKey :=
      ⟨s.tokens.size, s.flow == 0 && s.indent == c.column, c.index, c.line, c.column⟩
    .ok { s with keys := (s.flow, key) :: s.keys }
  else .ok s

/-! ## Indentation -/

/-- The blocks that are indented more than `column` are ended. -/
def unwindFrom (column : Int) : (outer : List Int) → Scan → Scan
  | [], s => s
  | i :: is, s =>
      if column < s.indent then
        unwindFrom column is { s.push .blockEnd with indent := i, outer := is }
      else s

/-- The same outside of brackets; inside of them indentation means nothing. -/
def unwind (column : Int) (s : Scan) : Scan :=
  if s.flow = 0 then unwindFrom column s.outer s else s

/-- The indentation `column` if it is wider than the one at hand, and whether it is. -/
def indentTo (column : Nat) (s : Scan) : Bool × Scan :=
  if s.indent < column then (true, { s with indent := column, outer := s.indent :: s.outer })
  else (false, s)

/-- A block that begins at a column, unless one already did. -/
def beginBlock (t : Token) (s : Scan) : Scan :=
  let (isNew, s) := s.indentTo s.cursor.column
  if isNew then s.push t else s

/-! ## Single tokens -/

def allowKey (b : Bool) (s : Scan) : Scan := { s with keyAllowed := b }

def finish (s : Scan) : Except Failure Scan := do
  let s ← (s.unwind (-1)).dropKey
  .ok { s.push .streamEnd with keyAllowed := false, keys := [], done := true }

def directive (s : Scan) : Except Failure Scan := do
  let s ← (s.unwind (-1)).dropKey
  let (t, c) ← Property.directive s.cursor
  .ok { (s.allowKey false).push t with cursor := c }

def documentMark (t : Token) (s : Scan) : Except Failure Scan := do
  let s ← (s.unwind (-1)).dropKey
  .ok ((s.allowKey false).pushMark t 3)

def openFlow (t : Token) (s : Scan) : Except Failure Scan := do
  let s ← s.saveKey
  .ok (({ s with flow := s.flow + 1 }.allowKey true).pushMark t 1)

/-- A closing bracket. Without an open one it is out of place. -/
def closeFlow (t : Token) (s : Scan) : Except Failure Scan := do
  let s ← s.dropKey
  if s.flow = 0 then .error .notYaml
  else .ok (({ s with flow := s.flow - 1 }.allowKey false).pushMark t 1)

def flowEntry (s : Scan) : Except Failure Scan := do
  let s ← (s.allowKey true).dropKey
  .ok (s.pushMark .flowEntry 1)

/-- The hyphen before an item. -/
def blockEntry (s : Scan) : Except Failure Scan := do
  let s ← if s.flow = 0 then
      if s.keyAllowed then .ok (s.beginBlock .blockSequence) else .error .notYaml
    else .ok s
  let s ← (s.allowKey true).dropKey
  .ok (s.pushMark .blockEntry 1)

/-- The question mark before a key. -/
def key (s : Scan) : Except Failure Scan := do
  let s ← if s.flow = 0 then
      if s.keyAllowed then .ok (s.beginBlock .blockMapping) else .error .notYaml
    else .ok s
  let s ← (s.allowKey (s.flow == 0)).dropKey
  .ok (s.pushMark .key 1)

/-- The colon before a value. The possible key on its level becomes a key, and begins a block if
nothing else did. -/
def value (s : Scan) : Except Failure Scan :=
  match s.keys.lookup s.flow with
  | some k =>
      let s := { s with keys := s.keys.filter fun k => k.1 != s.flow }
      let s := s.insertAt k.number .key
      let s := if s.flow = 0 then
          let (isNew, s) := s.indentTo k.column
          if isNew then s.insertAt k.number .blockMapping else s
        else s
      .ok ((s.allowKey false).pushMark .value 1)
  | none => do
      let s ← if s.flow = 0 then
          if s.keyAllowed then .ok (s.beginBlock .blockMapping) else .error .notYaml
        else .ok s
      let s ← (s.allowKey (s.flow == 0)).dropKey
      .ok (s.pushMark .value 1)

/-- A token that can be a key, read by `read`. -/
def possibleKey (read : Cursor → Except Failure (Token × Cursor)) (s : Scan) :
    Except Failure Scan := do
  let s ← s.saveKey
  let (t, c) ← read s.cursor
  .ok { (s.allowKey false).push t with cursor := c }

/-- An anchor or an alias. -/
def named (t : String → Token) (c : Cursor) : Except Failure (Token × Cursor) := do
  let (name, c) ← Property.anchorName c
  .ok (t name, c)

def quoted (c : Cursor) : Except Failure (Token × Cursor) := do
  let (cs, c) ← Quoted.read c
  .ok (.scalar (String.ofList cs) false, c)

def blockText (s : Scan) : Except Failure Scan := do
  let s ← (s.allowKey true).dropKey
  let (cs, c) ← Block.read s.indent s.cursor
  .ok { s.push (.scalar (String.ofList cs) false) with cursor := c }

/-- A plain text. Keys can follow it if its line has ended. -/
def plainText (s : Scan) : Except Failure Scan := do
  let s ← s.saveKey
  let (cs, c, lineEnded) := Plain.read (0 < s.flow) (s.indent + 1) s.cursor
  .ok { (s.allowKey lineEnded).push (.scalar (String.ofList cs) true) with cursor := c }

/-- The characters that a plain text cannot begin with. -/
def marks : List Char := "-?:,[]\x7b\x7d#&*!|>'\"%@\x60".toList

/-- Whether a plain text begins at a place. -/
def beginsPlain (inFlow : Bool) (c : Cursor) : Bool :=
  let ch := c.head
  (!isGapOrEnd ch && !marks.contains ch) ||
    (!isGapOrEnd (c.peek 1) && (ch == '-' || (!inFlow && (ch == '?' || ch == ':'))))

/-! ## All tokens -/

/-- The place of the next token, behind spaces, comments and line ends. Outside of brackets a key
can begin on a new line. -/
def skipGap : (fuel : Nat) → Scan → Scan
  | 0, s => s
  | fuel + 1, s =>
      let c := s.cursor.skipSpaces.skipComment
      match c.lineEnd? with
      | some (_, c) =>
          skipGap fuel { s with cursor := c, keyAllowed := s.keyAllowed || s.flow == 0 }
      | none => { s with cursor := c }

/-- The place behind a byte order mark at the start of the text. -/
def skipByteOrderMark (c : Cursor) : Cursor :=
  if c.index = 0 ∧ c.head = '\uFEFF' then c.next else c

def token (s : Scan) : Except Failure Scan :=
  let c := s.cursor
  let ch := c.head
  let inFlow := 0 < s.flow
  let apart := isGapOrEnd (c.peek 1)
  if c.rest.isEmpty then s.finish
  else if ch = '%' ∧ c.column = 0 then s.directive
  else if c.column = 0 ∧ c.isDocumentMark '-' then s.documentMark .documentStart
  else if c.column = 0 ∧ c.isDocumentMark '.' then s.documentMark .documentEnd
  else if ch = '[' then s.openFlow .flowSequence
  else if ch = '\x7b' then s.openFlow .flowMapping
  else if ch = ']' then s.closeFlow .flowSequenceEnd
  else if ch = '\x7d' then s.closeFlow .flowMappingEnd
  else if ch = ',' then s.flowEntry
  else if ch = '-' ∧ apart then s.blockEntry
  else if ch = '?' ∧ (inFlow ∨ apart) then s.key
  else if ch = ':' ∧ (inFlow ∨ apart) then s.value
  else if ch = '*' then s.possibleKey (named .alias)
  else if ch = '&' then s.possibleKey (named .anchor)
  else if ch = '!' then s.possibleKey Property.tag
  else if (ch = '|' ∨ ch = '>') ∧ !inFlow then s.blockText
  else if ch = '\'' ∨ ch = '"' then s.possibleKey quoted
  else if beginsPlain inFlow c then s.plainText
  else .error .notYaml

def step (s : Scan) : Except Failure Scan := do
  let s := skipGap (s.cursor.rest.length + 1) { s with cursor := skipByteOrderMark s.cursor }
  let s ← s.dropStale
  (s.unwind s.cursor.column).token

def run : (fuel : Nat) → Scan → Except Failure Scan
  | 0, _ => .error .notYaml
  | fuel + 1, s => if s.done then .ok s else do run fuel (← s.step)

end Scan

def tokens (cs : List Char) : Except Failure (List Token) :=
  if cs.all isAllowed then (Scan.run (2 * cs.length + 4) (.ofText cs)).map fun s => s.tokens.toList
  else .error .notYaml

end Stencil.Yaml
