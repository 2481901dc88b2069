/-!
# Text as bytes

UTF-8: one to four bytes a character. Reading is strict about overlong forms, surrogates and values
past the last code point. The forgiving reader puts one replacement character for every longest
piece that could still have begun a character.
-/

namespace Stencil.Text

abbrev Bytes := List UInt8

def utf8Char (c : Char) : Bytes :=
  let n := c.toNat
  if n < 0x80 then [UInt8.ofNat n]
  else if n < 0x800 then [UInt8.ofNat (0xC0 + n / 64), UInt8.ofNat (0x80 + n % 64)]
  else if n < 0x10000 then
    [UInt8.ofNat (0xE0 + n / 4096), UInt8.ofNat (0x80 + n / 64 % 64), UInt8.ofNat (0x80 + n % 64)]
  else
    [UInt8.ofNat (0xF0 + n / 262144), UInt8.ofNat (0x80 + n / 4096 % 64),
      UInt8.ofNat (0x80 + n / 64 % 64), UInt8.ofNat (0x80 + n % 64)]

def utf8 (cs : List Char) : Bytes := cs.flatMap utf8Char

/-! ## Reading -/

/-- What a byte says as the first of a character: how many bytes follow, the bits it brings, and the
range of the byte after it. -/
structure Lead where
  more : Nat
  bits : Nat
  low : Nat
  high : Nat

/-- The reading of a byte as the first of a character. -/
def Lead.ofByte? (b : UInt8) : Option Lead :=
  let n := b.toNat
  if n < 0x80 then some ⟨0, n, 0, 0⟩
  else if n < 0xC2 then none
  else if n < 0xE0 then some ⟨1, n - 0xC0, 0x80, 0xBF⟩
  else if n == 0xE0 then some ⟨2, 0, 0xA0, 0xBF⟩
  else if n == 0xED then some ⟨2, 0xD, 0x80, 0x9F⟩
  else if n < 0xF0 then some ⟨2, n - 0xE0, 0x80, 0xBF⟩
  else if n == 0xF0 then some ⟨3, 0, 0x90, 0xBF⟩
  else if n < 0xF4 then some ⟨3, n - 0xF0, 0x80, 0xBF⟩
  else if n == 0xF4 then some ⟨3, 4, 0x80, 0x8F⟩
  else none

/-- The number of bytes, and the code point if they are complete, of `more` further bytes, the first
of which lies between `low` and `high`. -/
def continuation (bits low high : Nat) : (more : Nat) → Bytes → Nat × Option Nat
  | 0, _ => (0, some bits)
  | _ + 1, [] => (0, none)
  | more + 1, b :: bs =>
      if low ≤ b.toNat && b.toNat ≤ high then
        let (n, point) := continuation (bits * 64 + (b.toNat - 0x80)) 0x80 0xBF more bs
        (n + 1, point)
      else (0, none)

/-- The first character of the bytes, none where they are ill-formed, and how many bytes behind the
first belong to it. -/
def firstChar (b : UInt8) (bs : Bytes) : Option Char × Nat :=
  match Lead.ofByte? b with
  | none => (none, 0)
  | some lead =>
      let (n, point) := continuation lead.bits lead.low lead.high lead.more bs
      (point.map Char.ofNat, n)

/-- Reads bytes as text, putting `onBad` where they are ill-formed. -/
def decodeWith {ε : Type} (onBad : Except ε Char) : Bytes → Except ε (List Char)
  | [] => .ok []
  | b :: bs => do
      let (c?, n) := firstChar b bs
      let c ← match c? with
        | some c => .ok c
        | none => onBad
      let cs ← decodeWith onBad (bs.drop n)
      .ok (c :: cs)
termination_by bs => bs.length
decreasing_by all_goals (simp only [List.length_drop, List.length_cons]; omega)

/-- Reads bytes as text; none if they are ill-formed anywhere. -/
def decode? (bs : Bytes) : Option (List Char) := (decodeWith (.error ()) bs).toOption

/-- Reads bytes as text, with a replacement character for each ill-formed piece. -/
def decodeReplacing (bs : Bytes) : List Char :=
  match decodeWith (ε := Empty) (.ok '\uFFFD') bs with
  | .ok cs => cs

end Stencil.Text
