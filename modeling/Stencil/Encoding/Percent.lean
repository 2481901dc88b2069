import Stencil.Text.Class
import Stencil.Text.Utf8

/-!
# Percent escapes

A text in a form that can be part of an address: ASCII letters, digits and four marks stand for
themselves, and every other byte of the text is written as a percent sign and two digits. Reading
puts the bytes back together within each run of ASCII characters; what is no escape stands for
itself.
-/

namespace Stencil.Percent

open Stencil.Text

/-- The characters that stand for themselves. -/
def isUnreserved (c : Char) : Bool :=
  c.isAlphanum || c == '_' || c == '.' || c == '-' || c == '~'

def encodeByte (b : UInt8) : List Char :=
  let c := Char.ofNat b.toNat
  if b.toNat < 0x80 && isUnreserved c then [c]
  else ['%', hexDigitUpper (b.toNat / 16), hexDigitUpper (b.toNat % 16)]

/-- A text with everything else escaped. -/
def encode (cs : List Char) : List Char := (utf8 cs).flatMap encodeByte

/-- The bytes of a run of ASCII characters. -/
def decodeBytes : List Char → Bytes
  | [] => []
  | '%' :: a :: b :: rest =>
      match hexValue? a, hexValue? b with
      | some high, some low => UInt8.ofNat (high * 16 + low) :: decodeBytes rest
      | _, _ => 0x25 :: decodeBytes (a :: b :: rest)
  | c :: rest => UInt8.ofNat c.toNat :: decodeBytes rest

def isAscii (c : Char) : Bool := c.toNat < 0x80

/-- The text in which `run` is the run of ASCII characters read last, last character first. -/
def decodeFrom (run : List Char) : List Char → List Char
  | [] => decodeReplacing (decodeBytes run.reverse)
  | c :: cs =>
      if isAscii c then decodeFrom (c :: run) cs
      else decodeReplacing (decodeBytes run.reverse) ++ c :: decodeFrom [] cs

/-- The text with its escapes read. -/
def decode (cs : List Char) : List Char := decodeFrom [] cs

end Stencil.Percent
