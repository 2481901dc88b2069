import Stencil.Digest.Words

/-!
# SHA-1

A digest of twenty bytes, from blocks of sixty-four.
-/

namespace Stencil.Digest.Sha1

open Stencil.Text

structure State where
  a : UInt32
  b : UInt32
  c : UInt32
  d : UInt32
  e : UInt32

def State.initial : State := ⟨0x67452301, 0xEFCDAB89, 0x98BADCFE, 0x10325476, 0xC3D2E1F0⟩

/-- The words of a block and the sixty-four that follow from them. -/
def schedule (block : Bytes) : Array UInt32 :=
  (List.range 64).foldl (fun w i =>
    let at1 := fun k => w.getD (i + 16 - k) 0
    w.push (rotl32 (at1 3 ^^^ at1 8 ^^^ at1 14 ^^^ at1 16) 1)) (words32 bigEndian block)

def step (w : Array UInt32) (s : State) (i : Nat) : State :=
  let (f, k) : UInt32 × UInt32 :=
    if i < 20 then ((s.b &&& s.c) ||| (~~~s.b &&& s.d), 0x5A827999)
    else if i < 40 then (s.b ^^^ s.c ^^^ s.d, 0x6ED9EBA1)
    else if i < 60 then ((s.b &&& s.c) ||| (s.b &&& s.d) ||| (s.c &&& s.d), 0x8F1BBCDC)
    else (s.b ^^^ s.c ^^^ s.d, 0xCA62C1D6)
  ⟨rotl32 s.a 5 + f + s.e + k + w.getD i 0, s.a, rotl32 s.b 30, s.c, s.d⟩

def absorb (s : State) (block : Bytes) : State :=
  let t := (List.range 80).foldl (step (schedule block)) s
  ⟨s.a + t.a, s.b + t.b, s.c + t.c, s.d + t.d, s.e + t.e⟩

def digest (msg : Bytes) : Bytes :=
  let s := (pieces 64 (fillUp 64 8 (toBigEndian 8) msg)).foldl absorb .initial
  [s.a, s.b, s.c, s.d, s.e].flatMap fun w => toBigEndian 4 w.toNat

end Stencil.Digest.Sha1
