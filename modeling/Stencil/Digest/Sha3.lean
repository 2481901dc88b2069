import Stencil.Digest.Words

/-!
# SHA-3

A state of twenty-five long words is mixed as a whole after every block that is added to its first
words. The larger the digest, the fewer words take part in that, and the more stay hidden.
-/

namespace Stencil.Digest.Sha3

open Stencil.Text

/-- The constants of the twenty-four rounds. -/
def roundConstants : List UInt64 := [
  0x0000000000000001, 0x0000000000008082, 0x800000000000808A, 0x8000000080008000,
  0x000000000000808B, 0x0000000080000001, 0x8000000080008081, 0x8000000000008009,
  0x000000000000008A, 0x0000000000000088, 0x0000000080008009, 0x000000008000000A,
  0x000000008000808B, 0x800000000000008B, 0x8000000000008089, 0x8000000000008003,
  0x8000000000008002, 0x8000000000000080, 0x000000000000800A, 0x800000008000000A,
  0x8000000080008081, 0x8000000000008080, 0x0000000080000001, 0x8000000080008008]

/-- The turns of the words, row by row. -/
def turns : Array UInt64 := #[0, 1, 62, 28, 27, 36, 44, 6, 55, 20, 3, 10, 43, 25, 39, 41, 45, 15,
  21, 8, 18, 2, 61, 56, 14]

/-- A state of which every word is given by its place. -/
def tabulate (f : Nat → UInt64) : Array UInt64 := ((List.range 25).map f).toArray

def round (s : Array UInt64) (constant : UInt64) : Array UInt64 :=
  let column := ((List.range 5).map fun x =>
    (List.range 5).foldl (fun acc y => acc ^^^ s.getD (x + 5 * y) 0) 0).toArray
  let mixed := tabulate fun i =>
    s.getD i 0 ^^^ column.getD ((i + 4) % 5) 0 ^^^ rotl64 (column.getD ((i + 1) % 5) 0) 1
  let moved := tabulate fun i =>
    let x := i % 5
    let y := i / 5
    let source := (x + 3 * y) % 5 + 5 * x
    rotl64 (mixed.getD source 0) (turns.getD source 0)
  tabulate fun i =>
    let x := i % 5
    let y := i / 5
    let at1 := fun k => moved.getD ((x + k) % 5 + 5 * y) 0
    let word := at1 0 ^^^ (~~~(at1 1) &&& at1 2)
    if i = 0 then word ^^^ constant else word

def permute (s : Array UInt64) : Array UInt64 := roundConstants.foldl round s

def absorb (s : Array UInt64) (block : Bytes) : Array UInt64 :=
  let w := words64 littleEndian block
  permute (tabulate fun i => s.getD i 0 ^^^ w.getD i 0)

/-- A message filled up to blocks of `rate` bytes. -/
def fill (rate : Nat) (msg : Bytes) : Bytes :=
  let missing := rate - msg.length % rate
  if missing = 1 then msg ++ [0x86] else msg ++ 0x06 :: List.replicate (missing - 2) 0 ++ [0x80]

/-- The digest of `size` bytes of a message. -/
def digest (size : Nat) (msg : Bytes) : Bytes :=
  let rate := 200 - 2 * size
  let s := (pieces rate (fill rate msg)).foldl absorb (tabulate fun _ => 0)
  (s.toList.flatMap fun w => toLittleEndian 8 w.toNat).take size

end Stencil.Digest.Sha3
