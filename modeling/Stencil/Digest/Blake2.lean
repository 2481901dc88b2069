import Stencil.Digest.Sha2

/-!
# BLAKE2

Two digests with one shape, on long words and on short ones. A block is mixed into a square of
sixteen words, eight of the state and eight constants, in an order of its words that changes every
round.
-/

namespace Stencil.Digest.Blake2

open Stencil.Text

/-- The order of the words of a block in the ten rounds. -/
def orders : Array (Array Nat) := #[
  #[0, 1, 2, 3, 4, 5, 6, 7, 8, 9, 10, 11, 12, 13, 14, 15],
  #[14, 10, 4, 8, 9, 15, 13, 6, 1, 12, 0, 2, 11, 7, 5, 3],
  #[11, 8, 12, 0, 5, 2, 15, 13, 10, 14, 3, 6, 7, 1, 9, 4],
  #[7, 9, 3, 1, 13, 12, 11, 14, 2, 6, 5, 10, 4, 0, 15, 8],
  #[9, 0, 5, 7, 2, 4, 10, 15, 14, 1, 11, 12, 6, 8, 3, 13],
  #[2, 12, 6, 10, 0, 11, 8, 3, 4, 13, 7, 5, 15, 14, 1, 9],
  #[12, 5, 1, 15, 14, 13, 4, 10, 0, 7, 6, 3, 9, 2, 8, 11],
  #[13, 11, 7, 14, 12, 1, 3, 9, 5, 0, 15, 4, 8, 6, 2, 10],
  #[6, 15, 14, 9, 11, 3, 0, 8, 12, 2, 13, 7, 1, 4, 10, 5],
  #[10, 2, 8, 4, 7, 6, 1, 5, 15, 11, 9, 14, 3, 12, 13, 0]]

/-- The four places that each of the eight mixings of a round works on: the columns of the square
and then its diagonals. -/
def quarters : List (Nat × Nat × Nat × Nat) :=
  [(0, 4, 8, 12), (1, 5, 9, 13), (2, 6, 10, 14), (3, 7, 11, 15),
    (0, 5, 10, 15), (1, 6, 11, 12), (2, 7, 8, 13), (3, 4, 9, 14)]

/-! ## Long words -/

def mix64 (v : Array UInt64) (p : Nat × Nat × Nat × Nat) (x y : UInt64) : Array UInt64 :=
  let (i, j, k, l) := p
  let a := v.getD i 0 + v.getD j 0 + x
  let d := rotr64 (v.getD l 0 ^^^ a) 32
  let c := v.getD k 0 + d
  let b := rotr64 (v.getD j 0 ^^^ c) 24
  let a := a + b + y
  let d := rotr64 (d ^^^ a) 16
  let c := c + d
  let b := rotr64 (b ^^^ c) 63
  (((v.setIfInBounds i a).setIfInBounds j b).setIfInBounds k c).setIfInBounds l d

def round64 (m : Array UInt64) (v : Array UInt64) (r : Nat) : Array UInt64 :=
  let order := orders.getD (r % 10) #[]
  let word := fun n => m.getD (order.getD n 0) 0
  (quarters.zipIdx).foldl (fun v (p, n) => mix64 v p (word (2 * n)) (word (2 * n + 1))) v

/-- The state after a block, when `count` bytes were read with it. -/
def absorb64 (h : Array UInt64) (block : Bytes) (count : Nat) (isLast : Bool) : Array UInt64 :=
  let m := words64 littleEndian (block ++ List.replicate (128 - block.length) 0)
  let v := h ++ Sha2.initial512
  let v := v.modify 12 (· ^^^ UInt64.ofNat count)
  let v := if isLast then v.modify 14 (~~~ ·) else v
  let v := (List.range 12).foldl (round64 m) v
  ((List.range 8).map fun i => h.getD i 0 ^^^ v.getD i 0 ^^^ v.getD (i + 8) 0).toArray

/-- The state after blocks, when `count` bytes were read before them. -/
def absorbAll64 : (h : Array UInt64) → (count : Nat) → List Bytes → Array UInt64
  | h, count, [] => absorb64 h [] count true
  | h, count, [block] => absorb64 h block (count + block.length) true
  | h, count, block :: blocks =>
      absorbAll64 (absorb64 h block (count + 128) false) (count + 128) blocks

def digest64 (msg : Bytes) : Bytes :=
  let start := Sha2.initial512.modify 0 (· ^^^ 0x01010040)
  (absorbAll64 start 0 (pieces 128 msg)).toList.flatMap fun w => toLittleEndian 8 w.toNat

/-! ## Short words -/

def mix32 (v : Array UInt32) (p : Nat × Nat × Nat × Nat) (x y : UInt32) : Array UInt32 :=
  let (i, j, k, l) := p
  let a := v.getD i 0 + v.getD j 0 + x
  let d := rotr32 (v.getD l 0 ^^^ a) 16
  let c := v.getD k 0 + d
  let b := rotr32 (v.getD j 0 ^^^ c) 12
  let a := a + b + y
  let d := rotr32 (d ^^^ a) 8
  let c := c + d
  let b := rotr32 (b ^^^ c) 7
  (((v.setIfInBounds i a).setIfInBounds j b).setIfInBounds k c).setIfInBounds l d

def round32 (m : Array UInt32) (v : Array UInt32) (r : Nat) : Array UInt32 :=
  let order := orders.getD (r % 10) #[]
  let word := fun n => m.getD (order.getD n 0) 0
  (quarters.zipIdx).foldl (fun v (p, n) => mix32 v p (word (2 * n)) (word (2 * n + 1))) v

/-- The state after a block, when `count` bytes were read with it. -/
def absorb32 (h : Array UInt32) (block : Bytes) (count : Nat) (isLast : Bool) : Array UInt32 :=
  let m := words32 littleEndian (block ++ List.replicate (64 - block.length) 0)
  let v := h ++ Sha2.initial256
  let v := v.modify 12 (· ^^^ UInt32.ofNat count)
  let v := if isLast then v.modify 14 (~~~ ·) else v
  let v := (List.range 10).foldl (round32 m) v
  ((List.range 8).map fun i => h.getD i 0 ^^^ v.getD i 0 ^^^ v.getD (i + 8) 0).toArray

/-- The state after blocks, when `count` bytes were read before them. -/
def absorbAll32 : (h : Array UInt32) → (count : Nat) → List Bytes → Array UInt32
  | h, count, [] => absorb32 h [] count true
  | h, count, [block] => absorb32 h block (count + block.length) true
  | h, count, block :: blocks =>
      absorbAll32 (absorb32 h block (count + 64) false) (count + 64) blocks

def digest32 (msg : Bytes) : Bytes :=
  let start := Sha2.initial256.modify 0 (· ^^^ 0x01010020)
  (absorbAll32 start 0 (pieces 64 msg)).toList.flatMap fun w => toLittleEndian 4 w.toNat

end Stencil.Digest.Blake2
