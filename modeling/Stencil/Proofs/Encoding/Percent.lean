import Stencil.Encoding.Percent
import Stencil.Proofs.Text.Utf8

/-!
# Percent escapes are read back

What is written is ASCII throughout, so it is one run for the reader, which
puts all of its bytes back together before it reads them as text. A byte that
stands for itself is no percent sign, and so no escape is read where none was
written.
-/

namespace Stencil.Percent

open Stencil.Text

/-- A digit in upper case. -/
def isUpperDigit (c : Char) : Bool := c.isDigit || ('A' ≤ c && c ≤ 'F')

theorem hexValue?_hexDigitUpper : ∀ n < 16, hexValue? (hexDigitUpper n) = some n := by decide

theorem isUpperDigit_hexDigitUpper : ∀ n < 16, isUpperDigit (hexDigitUpper n) = true := by decide

theorem hexDigitUpper_ascii : ∀ n < 16, isAscii (hexDigitUpper n) = true := by decide

theorem unreserved_ne_percent {c : Char} (h : isUnreserved c = true) : c ≠ '%' := by
  rintro rfl
  cases h

/-! ## One byte -/

/-- A byte is written as the character that it is, or as an escape. -/
theorem encodeByte_cases (b : UInt8) :
    (∃ c, encodeByte b = [c] ∧ isUnreserved c = true ∧ c.toNat = b.toNat ∧ b.toNat < 0x80) ∨
      ∃ n < 16, ∃ m < 16, encodeByte b = ['%', hexDigitUpper n, hexDigitUpper m] ∧
        n * 16 + m = b.toNat := by
  have hb := b.toNat_lt
  rw [encodeByte]
  split
  · next h =>
      obtain ⟨hsmall, hplain⟩ := Bool.and_eq_true_iff.1 h
      have hsmall := of_decide_eq_true hsmall
      refine .inl ⟨_, rfl, hplain, ?_, hsmall⟩
      have hvalid : b.toNat.isValidChar := .inl (by omega)
      rw [Char.ofNat, dif_pos hvalid]
      rfl
  · exact .inr ⟨_, by omega, _, by omega, rfl, Nat.div_add_mod' _ _⟩

theorem encodeByte_ascii (b : UInt8) : ∀ c ∈ encodeByte b, isAscii c = true := by
  rcases encodeByte_cases b with ⟨c, heq, -, hc, hsmall⟩ | ⟨n, hn, m, hm, heq, -⟩
  · rw [heq, List.forall_mem_singleton]
    exact decide_eq_true (by omega)
  · rw [heq]
    simp only [List.forall_mem_cons]
    exact ⟨by decide, hexDigitUpper_ascii n hn, hexDigitUpper_ascii m hm, by simp⟩

/-- What stands for itself brings its own byte. -/
theorem decodeBytes_plain {c : Char} (h : c ≠ '%') (cs : List Char) :
    decodeBytes (c :: cs) = UInt8.ofNat c.toNat :: decodeBytes cs := by
  rw [decodeBytes]
  rintro _ _ _ rfl
  exact absurd rfl h

theorem decodeBytes_encodeByte (b : UInt8) (cs : List Char) :
    decodeBytes (encodeByte b ++ cs) = b :: decodeBytes cs := by
  rcases encodeByte_cases b with ⟨c, heq, hplain, hc, -⟩ | ⟨n, hn, m, hm, heq, hb⟩
  · rw [heq, List.singleton_append, decodeBytes_plain (unreserved_ne_percent hplain), hc,
      UInt8.ofNat_toNat]
  · rw [heq, List.cons_append, List.cons_append, List.singleton_append, decodeBytes]
    simp only [hexValue?_hexDigitUpper n hn, hexValue?_hexDigitUpper m hm]
    rw [hb, UInt8.ofNat_toNat]

theorem decodeBytes_flatMap (bs : Bytes) : decodeBytes (bs.flatMap encodeByte) = bs := by
  induction bs with
  | nil => rfl
  | cons b bs ih => rw [List.flatMap_cons, decodeBytes_encodeByte, ih]

/-! ## Texts -/

theorem encode_ascii (cs : List Char) : ∀ c ∈ encode cs, isAscii c = true := by
  intro c hc
  obtain ⟨b, -, hc⟩ := List.mem_flatMap.1 hc
  exact encodeByte_ascii b c hc

/-- ASCII text is one run. -/
theorem decodeFrom_ascii {cs : List Char} (h : ∀ c ∈ cs, isAscii c = true) : ∀ run,
    decodeFrom run cs = decodeReplacing (decodeBytes (run.reverse ++ cs)) := by
  induction cs with
  | nil => intro run; rw [decodeFrom, List.append_nil]
  | cons c cs ih =>
      intro run
      obtain ⟨hc, hcs⟩ := List.forall_mem_cons.1 h
      rw [decodeFrom, if_pos hc, ih hcs, List.reverse_cons, List.append_assoc,
        List.singleton_append]

theorem decode_encode (cs : List Char) : decode (encode cs) = cs := by
  rw [decode, decodeFrom_ascii (encode_ascii cs), List.reverse_nil, List.nil_append, encode,
    decodeBytes_flatMap, decodeReplacing_utf8]

/-- A text of unreserved characters and escapes. -/
inductive Escaped : List Char → Prop
  | nil : Escaped []
  | plain {c : Char} {cs : List Char} : isUnreserved c = true → Escaped cs → Escaped (c :: cs)
  | escape {a b : Char} {cs : List Char} : isUpperDigit a = true → isUpperDigit b = true →
      Escaped cs → Escaped ('%' :: a :: b :: cs)

theorem encode_escaped (cs : List Char) : Escaped (encode cs) := by
  rw [encode]
  induction utf8 cs with
  | nil => exact .nil
  | cons b bs ih =>
      rw [List.flatMap_cons]
      rcases encodeByte_cases b with ⟨c, heq, hplain, -⟩ | ⟨n, hn, m, hm, heq, -⟩
      · rw [heq]
        exact .plain hplain ih
      · rw [heq]
        exact .escape (isUpperDigit_hexDigitUpper n hn) (isUpperDigit_hexDigitUpper m hm) ih

end Stencil.Percent
