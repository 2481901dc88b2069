import Stencil.Number.Numeral
import Stencil.Value.Basic

/-!
# Values as they are displayed

The notation in which a value is shown inside another or inside a message. It exists for every value
whose whole numbers are not too long to write.
-/

namespace Stencil

namespace Display

open Stencil.Text

/-- The quote that a text is put in: double only if it holds single quotes and no double ones. -/
def quoteFor (cs : List Char) : Char :=
  if cs.contains '\'' && !cs.contains '"' then '"' else '\''

def escapeChar (quote c : Char) : List Char :=
  let n := c.toNat
  if c = quote ∨ c = '\\' then ['\\', c]
  else if c = '\n' then ['\\', 'n']
  else if c = '\r' then ['\\', 'r']
  else if c = '\t' then ['\\', 't']
  else if isPrintable c then [c]
  else if n < 0x100 then '\\' :: 'x' :: hexDigits 2 n
  else if n < 0x10000 then '\\' :: 'u' :: hexDigits 4 n
  else '\\' :: 'U' :: hexDigits 8 n

def quoted (cs : List Char) : String :=
  let q := quoteFor cs
  String.ofList (q :: cs.flatMap (escapeChar q) ++ [q])

def quotedBytes (bs : Bytes) : String :=
  let cs := bs.map fun b => Char.ofNat b.toNat
  let q := quoteFor cs
  let show1 := fun (c : Char) =>
    if 0x7F ≤ c.toNat then '\\' :: 'x' :: hexDigits 2 c.toNat else escapeChar q c
  String.ofList ('b' :: q :: cs.flatMap show1 ++ [q])

def bracketed (before after : String) (parts : List String) : String :=
  before ++ ", ".intercalate parts ++ after

/-- A zone inside a displayed moment. -/
def zoneText (z : Zone) : String :=
  if z.offset = 0 then "datetime.timezone.utc"
  else
    let days := z.offset / 86400
    let seconds := z.offset % 86400
    let parts := (if days = 0 then [] else ["days=" ++ toString days]) ++
      (if seconds = 0 then [] else ["seconds=" ++ toString seconds])
    "datetime.timezone(" ++ bracketed "datetime.timedelta(" ")" parts ++ ")"

def momentText (m : Moment) : String :=
  let base := [m.date.year, m.date.month, m.date.day, m.hour, m.minute]
  let more := if m.micro ≠ 0 then [m.second, m.micro] else if m.second ≠ 0 then [m.second] else []
  let zone := match m.zone with
    | some z => ["tzinfo=" ++ zoneText z]
    | none => []
  bracketed "datetime.datetime(" ")" ((base ++ more).map toString ++ zone)

end Display

namespace Value

mutual

/-- The value in full notation; none if it holds a whole number that is too long. -/
def display? : Value → Option String
  | .null => some "None"
  | .bool b => some (if b then "True" else "False")
  | .int n => Numeral.intText? n
  | .float x => some x.toText
  | .str s => some (Display.quoted s.toList)
  | .list items => do some (Display.bracketed "[" "]" (← displayItems? items))
  | .tuple items => do
      match ← displayItems? items with
      | [one] => some ("(" ++ one ++ ",)")
      | parts => some (Display.bracketed "(" ")" parts)
  | .mapping entries => do some (Display.bracketed "\x7b" "\x7d" (← displayEntries? entries))
  | .set items => do
      match ← displayItems? items with
      | [] => some "set()"
      | parts => some (Display.bracketed "\x7b" "\x7d" parts)
  | .fixedSet items => do
      match ← displayItems? items with
      | [] => some "frozenset()"
      | parts => some (Display.bracketed "frozenset(\x7b" "\x7d)" parts)
  | .date d =>
      some (Display.bracketed "datetime.date(" ")" ([d.year, d.month, d.day].map toString))
  | .moment m => some (Display.momentText m)
  | .bytes bs => some (Display.quotedBytes bs)

def displayItems? : List Value → Option (List String)
  | [] => some []
  | x :: xs => do some ((← display? x) :: (← displayItems? xs))

def displayEntries? : List (Value × Value) → Option (List String)
  | [] => some []
  | (k, v) :: rest => do
      some (((← display? k) ++ ": " ++ (← display? v)) :: (← displayEntries? rest))

end

/-- The value as a message shows it: a text and a date as they are, all else in full notation. -/
def plain? : Value → Option String
  | .str s => some s
  | .date d => some d.toText
  | .moment m => some m.toText
  | v => v.display?

end Value

end Stencil
