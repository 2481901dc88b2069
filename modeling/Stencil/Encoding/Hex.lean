import Stencil.Text.Class
import Stencil.Text.Utf8

/-!
# Bytes in hexadecimal

Two digits a byte, written in lower case. Reading takes digits of either case and passes over ASCII
blanks in front of every pair and at the end.
-/

namespace Stencil.Hex

open Stencil.Text

def encode (bs : Bytes) : List Char :=
  bs.flatMap fun b => [hexDigit (b.toNat / 16), hexDigit (b.toNat % 16)]

/-- The blanks between pairs. -/
def isGap (c : Char) : Bool := c == ' ' || (0x09 ≤ c.toNat && c.toNat ≤ 0x0D)

/-- The bytes that pairs of digits stand for. -/
def decode? : List Char → Option Bytes
  | [] => some []
  | c :: cs =>
      if isGap c then decode? cs
      else match cs with
        | [] => none
        | d :: rest => do
            let high ← hexValue? c
            let low ← hexValue? d
            let bs ← decode? rest
            some (UInt8.ofNat (high * 16 + low) :: bs)

end Stencil.Hex
