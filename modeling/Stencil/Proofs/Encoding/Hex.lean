import Stencil.Encoding.Hex

/-!
# Hexadecimal bytes are read back

A digit is no blank, so the reader that passes over blanks between pairs takes
the pairs as they were written.
-/

namespace Stencil.Hex

open Stencil.Text

/-- A digit in lower case. -/
def isLowerDigit (c : Char) : Bool := c.isDigit || ('a' ≤ c && c ≤ 'f')

theorem hexValue?_hexDigit : ∀ n < 16, hexValue? (hexDigit n) = some n := by decide

theorem isLowerDigit_hexDigit : ∀ n < 16, isLowerDigit (hexDigit n) = true := by decide

theorem hexDigit_notGap : ∀ n < 16, isGap (hexDigit n) = false := by decide

/-- Two digits are one byte. -/
theorem decode?_pair {n m : Nat} (hn : n < 16) (hm : m < 16) (cs : List Char) :
    decode? (hexDigit n :: hexDigit m :: cs) =
      (decode? cs).map fun bs => UInt8.ofNat (n * 16 + m) :: bs := by
  rw [decode?, hexDigit_notGap n hn]
  simp only [hexValue?_hexDigit n hn, hexValue?_hexDigit m hm]
  cases decode? cs <;> rfl

theorem encode_cons (b : UInt8) (bs : Bytes) : encode (b :: bs) =
    hexDigit (b.toNat / 16) :: hexDigit (b.toNat % 16) :: encode bs := rfl

theorem decode?_encode (bs : Bytes) : decode? (encode bs) = some bs := by
  induction bs with
  | nil => rfl
  | cons b bs ih =>
      have hb := b.toNat_lt
      rw [encode_cons, decode?_pair (by omega) (by omega), ih, Nat.div_add_mod', UInt8.ofNat_toNat]
      rfl

/-- A text of pairs of digits in lower case. -/
def Paired (cs : List Char) : Prop := cs.length % 2 = 0 ∧ ∀ c ∈ cs, isLowerDigit c = true

theorem encode_paired (bs : Bytes) : Paired (encode bs) := by
  induction bs with
  | nil => exact ⟨rfl, by simp [encode]⟩
  | cons b bs ih =>
      have hb := b.toNat_lt
      rw [encode_cons]
      refine ⟨by have := ih.1; simp only [List.length_cons]; omega, ?_⟩
      simp only [List.forall_mem_cons]
      exact ⟨isLowerDigit_hexDigit _ (by omega), isLowerDigit_hexDigit _ (by omega), ih.2⟩

end Stencil.Hex
