import Stencil.Text.Utf8

/-!
# Bytes as words

The digests work on words of four or eight bytes, in either order, and on messages that are filled
up to whole blocks: a set bit, zeros, and the length of the message in bits.
-/

namespace Stencil.Digest

open Stencil.Text

/-- The number that bytes stand for, the first byte counting most. -/
def bigEndian (bs : Bytes) : Nat := bs.foldl (fun n b => n * 256 + b.toNat) 0

/-- The number that bytes stand for, the first byte counting least. -/
def littleEndian (bs : Bytes) : Nat := bs.foldr (fun b n => n * 256 + b.toNat) 0

/-- The lowest `width` bytes of a number, the lowest byte first. -/
def toLittleEndian : (width n : Nat) → Bytes
  | 0, _ => []
  | width + 1, n => UInt8.ofNat (n % 256) :: toLittleEndian width (n / 256)

/-- The lowest `width` bytes of a number, the lowest byte last. -/
def toBigEndian (width n : Nat) : Bytes := (toLittleEndian width n).reverse

/-- The pieces of `size` bytes, a shorter one at the end if they do not come out even. -/
def pieces (size : Nat) (bs : Bytes) : List Bytes :=
  match bs with
  | [] => []
  | b :: rest => (b :: rest.take (size - 1)) :: pieces size (rest.drop (size - 1))
termination_by bs.length
decreasing_by all_goals (simp only [List.length_drop, List.length_cons]; omega)

/-- A message filled up to blocks of `block` bytes, with its length in `width` bytes at the end. -/
def fillUp (block width : Nat) (lengthBytes : Nat → Bytes) (msg : Bytes) : Bytes :=
  let used := (msg.length + 1 + width) % block
  let zeros := if used = 0 then 0 else block - used
  msg ++ 0x80 :: List.replicate zeros 0 ++ lengthBytes (msg.length * 8)

/-- The words of a block by a reading of their bytes. -/
def words32 (read : Bytes → Nat) (bs : Bytes) : Array UInt32 :=
  ((pieces 4 bs).map fun w => UInt32.ofNat (read w)).toArray

/-- The long words of a block by a reading of their bytes. -/
def words64 (read : Bytes → Nat) (bs : Bytes) : Array UInt64 :=
  ((pieces 8 bs).map fun w => UInt64.ofNat (read w)).toArray

def rotl32 (x n : UInt32) : UInt32 := (x <<< n) ||| (x >>> (32 - n))

def rotr32 (x n : UInt32) : UInt32 := (x >>> n) ||| (x <<< (32 - n))

def rotr64 (x n : UInt64) : UInt64 := (x >>> n) ||| (x <<< (64 - n))

def rotl64 (x n : UInt64) : UInt64 := if n = 0 then x else (x <<< n) ||| (x >>> (64 - n))

end Stencil.Digest
