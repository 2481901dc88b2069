import Stencil.Failure
import Stencil.Value.Order

/-!
# Writing JSON

Values as JSON text. Characters are written as they are, except for quotes, backslashes and
controls. A mapping may have texts, numbers, truth values and null as keys, all written as texts.
Sets, dates and bytes have no JSON form; `relaxed` gives them one first, for text that only has to
be read.
-/

namespace Stencil.Json

open Stencil.Text

/-- How the parts of a document are set apart. -/
structure Layout where
  itemGap : List Char
  keyGap : List Char
  /-- The blanks per level of nesting, if every item has its own line. -/
  indent : Option Nat

/-- Everything in a row, without blanks. -/
def Layout.compact : Layout := ⟨[','], [':'], none⟩

/-- Everything in a row, with a blank after each comma and colon. -/
def Layout.spaced : Layout := ⟨[',', ' '], [':', ' '], none⟩

/-- A line for every item, indented by two blanks per level. -/
def Layout.indented : Layout := ⟨[','], [':', ' '], some 2⟩

/-! ## Parts -/

/-- A character inside a string. -/
def escapeChar (c : Char) : List Char :=
  if c = '"' then ['\\', '"']
  else if c = '\\' then ['\\', '\\']
  else if c = '\n' then ['\\', 'n']
  else if c = '\r' then ['\\', 'r']
  else if c = '\t' then ['\\', 't']
  else if c = '\x08' then ['\\', 'b']
  else if c = '\x0c' then ['\\', 'f']
  else if c.toNat < 0x20 then '\\' :: 'u' :: hexDigits 4 c.toNat
  else [c]

def writeString (cs : List Char) : List Char := '"' :: cs.flatMap escapeChar ++ ['"']

/-- A floating number; infinities and what is not a number have words. -/
def writeFloat : Binary64 → List Char
  | .nan => "NaN".toList
  | .infinite negative => (if negative then ['-'] else []) ++ "Infinity".toList
  | x => x.chars

/-- A whole number, refused if it is too long. -/
def writeInt (n : Int) : Except Failure (List Char) :=
  match Numeral.writeInt? n with
  | some cs => .ok cs
  | none => .error .badValue

def writeKey : Value → Except Failure (List Char)
  | .str s => .ok (writeString s.toList)
  | .null => .ok (writeString "null".toList)
  | .bool b => .ok (writeString (if b then "true" else "false").toList)
  | .int n => (writeInt n).map writeString
  | .float x => .ok (writeString (writeFloat x))
  | _ => .error .wrongType

/-- The line break before an item at a depth. -/
def Layout.newline (style : Layout) (depth : Nat) : List Char :=
  match style.indent with
  | none => []
  | some n => '\n' :: List.replicate (n * depth) ' '

/-- Parts between brackets, each on its own line if the layout wants it. -/
def bracketed (style : Layout) (depth : Nat) (before after : Char) (parts : List (List Char)) :
    List Char :=
  if parts.isEmpty then [before, after]
  else
    before :: style.newline (depth + 1) ++
      joinWith (style.itemGap ++ style.newline (depth + 1)) parts ++
      style.newline depth ++ [after]

/-! ## Documents -/

mutual

def write (style : Layout) (depth : Nat) : Value → Except Failure (List Char)
  | .null => .ok "null".toList
  | .bool b => .ok (if b then "true" else "false").toList
  | .int n => writeInt n
  | .float x => .ok (writeFloat x)
  | .str s => .ok (writeString s.toList)
  | .list items => do
      let parts ← writeItems style (depth + 1) items
      .ok (bracketed style depth '[' ']' parts)
  | .tuple items => do
      let parts ← writeItems style (depth + 1) items
      .ok (bracketed style depth '[' ']' parts)
  | .mapping entries => do
      let parts ← writeEntries style (depth + 1) entries
      .ok (bracketed style depth '\x7b' '\x7d' parts)
  | .set _ | .fixedSet _ | .date _ | .moment _ | .bytes _ => .error .wrongType

def writeItems (style : Layout) (depth : Nat) : List Value → Except Failure (List (List Char))
  | [] => .ok []
  | x :: xs => do
      let part ← write style depth x
      let parts ← writeItems style depth xs
      .ok (part :: parts)

def writeEntries (style : Layout) (depth : Nat) :
    List (Value × Value) → Except Failure (List (List Char))
  | [] => .ok []
  | (k, v) :: rest => do
      let key ← writeKey k
      let part ← write style depth v
      let parts ← writeEntries style depth rest
      .ok ((key ++ style.keyGap ++ part) :: parts)

end

/-- A value as JSON text in a layout. -/
def text (style : Layout) (v : Value) : Except Failure String :=
  (write style 0 v).map String.ofList

/-! ## Values without a JSON form -/

/-- The text that stands for a value without a JSON form. -/
def standIn (v : Value) : Except Failure Value :=
  match v.plain? with
  | some s => .ok (.str s)
  | none => .error .badValue

/-- The elements of a set in the order in which they are written, each with its own stand-in. -/
def inOrder (pairs : List (Value × Value)) : Except Failure Value :=
  match Value.inSetOrder? Prod.fst pairs with
  | some sorted => .ok (.list (sorted.map Prod.snd))
  | none => .error .badValue

mutual

/-- The value with its sets as sorted lists and its dates and bytes as texts. -/
def relaxed : Value → Except Failure Value
  | .list items => do .ok (.list (← relaxedItems items))
  | .tuple items => do .ok (.tuple (← relaxedItems items))
  | .mapping entries => do .ok (.mapping (← relaxedEntries entries))
  | .set items => do inOrder (items.zip (← relaxedItems items))
  | .fixedSet items => do inOrder (items.zip (← relaxedItems items))
  | .date d => standIn (.date d)
  | .moment m => standIn (.moment m)
  | .bytes bs => standIn (.bytes bs)
  | v => .ok v

/-- The items, each relaxed. -/
def relaxedItems : List Value → Except Failure (List Value)
  | [] => .ok []
  | x :: xs => do .ok ((← relaxed x) :: (← relaxedItems xs))

/-- The entries, their values relaxed. -/
def relaxedEntries : List (Value × Value) → Except Failure (List (Value × Value))
  | [] => .ok []
  | (k, v) :: rest => do .ok ((k, ← relaxed v) :: (← relaxedEntries rest))

end

/-- Any value as compact JSON text, after what has no JSON form was given one. -/
def describe (v : Value) : Except Failure String := do text .compact (← relaxed v)

end Stencil.Json
