import Stencil.Text.Class
import Stencil.Text.Utf8
import Stencil.Yaml.Token

/-!
# Directives, tags and anchors

The tokens that say something about a document or about the part of it that follows them.
-/

namespace Stencil.Yaml.Property

open Stencil.Text

/-! ## Tags -/

/-- A character of a tag other than the percent sign. -/
def isTagChar (c : Char) : Bool :=
  c.isAlphanum || "-;/?:@&=+$,_.!~*'()[]".toList.contains c

/-- The bytes of a row of percent escapes, and the place behind it. -/
def escapes : (fuel : Nat) → Cursor → Except Failure (Bytes × Cursor)
  | 0, c => .ok ([], c)
  | fuel + 1, c =>
      if c.head = '%' then
        match hexValue? (c.peek 1), hexValue? (c.peek 2) with
        | some high, some low => do
            let (bs, c) ← escapes fuel (c.advance 3)
            .ok (UInt8.ofNat (high * 16 + low) :: bs, c)
        | _, _ => .error .notYaml
      else .ok ([], c)

/-- The characters of a tag, which may be none. -/
def tagChars : (fuel : Nat) → Cursor → Except Failure (List Char × Cursor)
  | 0, c => .ok ([], c)
  | fuel + 1, c => do
      let (cs, c) := c.takeWhile isTagChar
      if c.head = '%' then
        let (bs, c) ← escapes (c.rest.length + 1) c
        match decode? bs with
        | none => .error .notYaml
        | some ds => do
            let (rest, c) ← tagChars fuel c
            .ok (cs ++ ds ++ rest, c)
      else .ok (cs, c)

/-- The characters of a tag, at least one. -/
def tagText (c : Cursor) : Except Failure (String × Cursor) := do
  let (cs, c) ← tagChars (c.rest.length + 1) c
  if cs.isEmpty then .error .notYaml else .ok (String.ofList cs, c)

/-- A handle: an exclamation mark by itself before a space, or two with a name between them. -/
def handle (c : Cursor) : Except Failure (String × Cursor) :=
  if c.head ≠ '!' then .error .notYaml
  else if c.peek 1 = ' ' then .ok ("!", c.next)
  else
    let name := (c.rest.drop 1).takeWhile isNameChar
    if c.peek (name.length + 1) = '!' then
      .ok (String.ofList ('!' :: name ++ ['!']), c.advance (name.length + 2))
    else .error .notYaml

def tag (c : Cursor) : Except Failure (Token × Cursor) := do
  let (token, c) ←
    if c.peek 1 = '<' then do
      let (text, c) ← tagText (c.advance 2)
      if c.head = '>' then .ok (Token.tag none text, c.next) else .error .notYaml
    else if isGapOrEnd (c.peek 1) then .ok (Token.tag none "!", c.next)
    else if ((c.rest.drop 1).takeWhile fun ch => !isSpaceOrEnd ch).contains '!' then do
      let (h, c) ← handle c
      let (text, c) ← tagText c
      .ok (Token.tag (some h) text, c)
    else do
      let (text, c) ← tagText c.next
      .ok (Token.tag (some "!") text, c)
  if isSpaceOrEnd c.head then .ok (token, c) else .error .notYaml

/-! ## Anchors -/

/-- The characters that may follow the name of an anchor. -/
def endsAnchor (c : Char) : Bool := isGapOrEnd c || "?:,]\x7d%@\x60".toList.contains c

/-- The name of the anchor or alias whose mark is at a place. -/
def anchorName (c : Cursor) : Except Failure (String × Cursor) :=
  let (name, c) := c.next.takeWhile isNameChar
  if name.isEmpty || !endsAnchor c.head then .error .notYaml else .ok (String.ofList name, c)

/-! ## Directives -/

def number (c : Cursor) : Except Failure (Nat × Cursor) :=
  let (digits, c) := c.takeWhile Char.isDigit
  if digits.isEmpty then .error .notYaml
  else .ok (digits.foldl (fun n d => n * 10 + (d.toNat - 0x30)) 0, c)

def version (c : Cursor) : Except Failure (Token × Cursor) := do
  let (major, c) ← number c.skipSpaces
  if c.head ≠ '.' then .error .notYaml
  else do
    let (_, c) ← number c.next
    if isSpaceOrEnd c.head then .ok (.version major, c) else .error .notYaml

/-- The meaning of a handle. -/
def tagPrefix (c : Cursor) : Except Failure (Token × Cursor) := do
  let (h, c) ← handle c.skipSpaces
  if c.head ≠ ' ' then .error .notYaml
  else do
    let (text, c) ← tagText c.skipSpaces
    if isSpaceOrEnd c.head then .ok (.tagPrefix h text, c) else .error .notYaml

/-- The directive whose percent sign is at a place. -/
def directive (c : Cursor) : Except Failure (Token × Cursor) := do
  let (name, c) := c.next.takeWhile isNameChar
  if name.isEmpty || !isSpaceOrEnd c.head then .error .notYaml
  else do
    let (token, c) ←
      if name = "YAML".toList then version c
      else if name = "TAG".toList then tagPrefix c
      else .ok (.otherDirective, c.skipWhile fun ch => !isBreak ch)
    .ok (token, ← c.finishLine)

end Stencil.Yaml.Property
