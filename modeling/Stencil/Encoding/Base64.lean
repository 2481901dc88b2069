import Stencil.Text.Utf8

/-!
# Base 64

Three bytes become four characters of an alphabet of sixty-four. One or two bytes at the end become
two or three characters, filled up with equals signs. Reading allows nothing but that: no other
character, no equals sign in front or in the middle, and none missing. Where no filling is needed,
equals signs at the very end are passed over.
-/

namespace Stencil.Base64

open Stencil.Text

/-- The character of a value below sixty-four. -/
def symbol (n : Nat) : Char :=
  if n < 26 then Char.ofNat (0x41 + n)
  else if n < 52 then Char.ofNat (0x61 + (n - 26))
  else if n < 62 then Char.ofNat (0x30 + (n - 52))
  else if n = 62 then '+' else '/'

def value? (c : Char) : Option Nat :=
  if 'A' ≤ c && c ≤ 'Z' then some (c.toNat - 0x41)
  else if 'a' ≤ c && c ≤ 'z' then some (c.toNat - 0x61 + 26)
  else if '0' ≤ c && c ≤ '9' then some (c.toNat - 0x30 + 52)
  else if c = '+' then some 62
  else if c = '/' then some 63
  else none

def encode : Bytes → List Char
  | [] => []
  | [a] => [symbol (a.toNat / 4), symbol (a.toNat % 4 * 16), '=', '=']
  | [a, b] =>
      [symbol (a.toNat / 4), symbol (a.toNat % 4 * 16 + b.toNat / 16), symbol (b.toNat % 16 * 4),
        '=']
  | a :: b :: c :: rest =>
      symbol (a.toNat / 4) :: symbol (a.toNat % 4 * 16 + b.toNat / 16) ::
        symbol (b.toNat % 16 * 4 + c.toNat / 64) :: symbol (c.toNat % 64) :: encode rest

/-- The bytes behind the last full group of four characters. -/
def decodeEnd (cs : List Char) : Option Bytes :=
  if cs.all (· == '=') then some []
  else match cs with
    | [a, b, '=', '='] => do
        let x ← value? a
        let y ← value? b
        some [UInt8.ofNat (x * 4 + y / 16)]
    | [a, b, c, '='] => do
        let x ← value? a
        let y ← value? b
        let z ← value? c
        some [UInt8.ofNat (x * 4 + y / 16), UInt8.ofNat (y % 16 * 16 + z / 4)]
    | _ => none

/-- The bytes of groups of four characters, as long as there are any. -/
def decodeGroups : List Char → Option Bytes
  | a :: b :: c :: d :: rest =>
      match value? a, value? b, value? c, value? d with
      | some x, some y, some z, some w => do
          let more ← decodeGroups rest
          some (UInt8.ofNat (x * 4 + y / 16) :: UInt8.ofNat (y % 16 * 16 + z / 4) ::
            UInt8.ofNat (z % 4 * 64 + w) :: more)
      | _, _, _, _ => decodeEnd (a :: b :: c :: d :: rest)
  | cs => decodeEnd cs

/-- The bytes that a text stands for. -/
def decode? (cs : List Char) : Option Bytes :=
  if cs.head? = some '=' then none else decodeGroups cs

/-! ## Forgiving reading -/

/-- The bytes of the characters of the alphabet before the filling. `held` are the values of the
group at hand, last value first, and `filled` is the count of the equals signs behind them. -/
def looseFrom (held : List Nat) (filled : Nat) : List Char → Option Bytes
  | [] => if held.isEmpty then some [] else none
  | c :: cs =>
      if c = '=' then
        if 2 ≤ held.length then
          if 4 ≤ held.length + filled + 1 then some [] else looseFrom held (filled + 1) cs
        else looseFrom held filled cs
      else match value? c, held with
        | none, held => looseFrom held filled cs
        | some x, [] => looseFrom [x] 0 cs
        | some x, [a] =>
            (looseFrom [x, a] 0 cs).map (UInt8.ofNat (a * 4 + x / 16) :: ·)
        | some x, [b, a] =>
            (looseFrom [x, b, a] 0 cs).map (UInt8.ofNat (b % 16 * 16 + x / 4) :: ·)
        | some x, c :: _ =>
            (looseFrom [] 0 cs).map (UInt8.ofNat (c % 4 * 64 + x) :: ·)

/-- The bytes that a text stands for when characters outside of the alphabet are passed over. -/
def decodeLoosely? (cs : List Char) : Option Bytes := looseFrom [] 0 cs

end Stencil.Base64
