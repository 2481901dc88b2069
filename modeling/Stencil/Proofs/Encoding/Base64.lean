import Stencil.Encoding.Base64

/-!
# Base 64 is read back

Three bytes are four values below sixty-four and back again, and the one or
two bytes that may be left over are told by the filling. What is written holds
nothing but the alphabet and the filling, in groups of four.
-/

namespace Stencil.Base64

open Stencil.Text

/-! ## The alphabet -/

/-- The characters that stand for values. -/
def isSymbol (c : Char) : Bool :=
  ('A' ≤ c && c ≤ 'Z') || ('a' ≤ c && c ≤ 'z') || ('0' ≤ c && c ≤ '9') || c == '+' || c == '/'

theorem value?_symbol : ∀ n < 64, value? (symbol n) = some n := by decide

theorem isSymbol_symbol : ∀ n < 64, isSymbol (symbol n) = true := by decide

theorem isSymbol_ascii {c : Char} (h : isSymbol c = true) : c.toNat < 0x80 := by
  simp only [isSymbol, Bool.or_eq_true, Bool.and_eq_true, decide_eq_true_eq, beq_iff_eq] at h
  rcases h with (((⟨-, h⟩ | ⟨-, h⟩) | ⟨-, h⟩) | rfl) | rfl
  · exact Nat.lt_of_le_of_lt h (by decide)
  · exact Nat.lt_of_le_of_lt h (by decide)
  · exact Nat.lt_of_le_of_lt h (by decide)
  · decide
  · decide

theorem symbol_ne_filling : ∀ n < 64, symbol n ≠ '=' := by decide

/-! ## Bytes and values -/

section

variable (a b c : UInt8)

theorem byte_eq {n : Nat} (h : n = a.toNat) : UInt8.ofNat n = a := by
  rw [h, UInt8.ofNat_toNat]

theorem byte_first :
    UInt8.ofNat (a.toNat / 4 * 4 + (a.toNat % 4 * 16 + b.toNat / 16) / 16) = a := by
  have hb := b.toNat_lt
  exact byte_eq a (by omega)

theorem byte_second :
    UInt8.ofNat ((a.toNat % 4 * 16 + b.toNat / 16) % 16 * 16 +
      (b.toNat % 16 * 4 + c.toNat / 64) / 4) = b := by
  have hb := b.toNat_lt
  have hc := c.toNat_lt
  exact byte_eq b (by omega)

theorem byte_third :
    UInt8.ofNat ((b.toNat % 16 * 4 + c.toNat / 64) % 4 * 64 + c.toNat % 64) = c := by
  have hc := c.toNat_lt
  exact byte_eq c (by omega)

end

/-! ## Groups -/

theorem encode_one (a : UInt8) :
    encode [a] = [symbol (a.toNat / 4), symbol (a.toNat % 4 * 16), '=', '='] := rfl

theorem encode_two (a b : UInt8) : encode [a, b] =
    [symbol (a.toNat / 4), symbol (a.toNat % 4 * 16 + b.toNat / 16), symbol (b.toNat % 16 * 4),
      '='] := rfl

theorem encode_group (a b c : UInt8) (rest : Bytes) : encode (a :: b :: c :: rest) =
    symbol (a.toNat / 4) :: symbol (a.toNat % 4 * 16 + b.toNat / 16) ::
      symbol (b.toNat % 16 * 4 + c.toNat / 64) :: symbol (c.toNat % 64) :: encode rest := rfl

/-! ## Reading -/

theorem decodeEnd_one {x y : Nat} (hx : x < 64) (hy : y < 64) :
    decodeEnd [symbol x, symbol y, '=', '='] = some [UInt8.ofNat (x * 4 + y / 16)] := by
  have hfull : [symbol x, symbol y, '=', '='].all (· == '=') = false := by
    simp [symbol_ne_filling x hx]
  rw [decodeEnd, hfull]
  simp [value?_symbol, hx, hy]

theorem decodeEnd_two {x y z : Nat} (hx : x < 64) (hy : y < 64) (hz : z < 64) :
    decodeEnd [symbol x, symbol y, symbol z, '='] =
      some [UInt8.ofNat (x * 4 + y / 16), UInt8.ofNat (y % 16 * 16 + z / 4)] := by
  have hfull : [symbol x, symbol y, symbol z, '='].all (· == '=') = false := by
    simp [symbol_ne_filling x hx]
  rw [decodeEnd, hfull]
  · simp [value?_symbol, hx, hy, hz]
  · exact symbol_ne_filling z hz

theorem decodeGroups_end {c d e : Char} (h : value? e = none) (b : Char) :
    decodeGroups [b, c, d, e] = decodeEnd [b, c, d, e] := by
  rw [decodeGroups, h]
  cases value? b <;> cases value? c <;> cases value? d <;> rfl

theorem decodeGroups_group {x y z w : Nat} (hx : x < 64) (hy : y < 64) (hz : z < 64) (hw : w < 64)
    (rest : List Char) :
    decodeGroups (symbol x :: symbol y :: symbol z :: symbol w :: rest) =
      (decodeGroups rest).map fun more => UInt8.ofNat (x * 4 + y / 16) ::
        UInt8.ofNat (y % 16 * 16 + z / 4) :: UInt8.ofNat (z % 4 * 64 + w) :: more := by
  rw [decodeGroups, value?_symbol x hx, value?_symbol y hy, value?_symbol z hz,
    value?_symbol w hw]
  cases decodeGroups rest <;> rfl

theorem decodeGroups_encode (bs : Bytes) : decodeGroups (encode bs) = some bs := by
  have hvalue : value? '=' = none := by decide
  induction bs using encode.induct with
  | case1 => rfl
  | case2 a =>
      have ha := a.toNat_lt
      rw [encode_one, decodeGroups_end hvalue, decodeEnd_one (by omega) (by omega),
        byte_eq a (by omega)]
  | case3 a b =>
      have ha := a.toNat_lt
      have hb := b.toNat_lt
      rw [encode_two, decodeGroups_end hvalue, decodeEnd_two (by omega) (by omega) (by omega),
        byte_first, byte_eq b (by omega)]
  | case4 a b c rest ih =>
      have ha := a.toNat_lt
      have hb := b.toNat_lt
      have hc := c.toNat_lt
      rw [encode_group, decodeGroups_group (by omega) (by omega) (by omega) (by omega), ih,
        byte_first, byte_second, byte_third]
      rfl

/-! ## What is written -/

/-- A text in groups of four characters of the alphabet, the last of which may
be filled up. -/
def Grouped (cs : List Char) : Prop :=
  cs.length % 4 = 0 ∧ ∃ body fill, cs = body ++ List.replicate fill '=' ∧ fill ≤ 2 ∧
    ∀ c ∈ body, isSymbol c = true

theorem Grouped.cons {x y z w : Nat} (hx : x < 64) (hy : y < 64) (hz : z < 64) (hw : w < 64)
    {cs : List Char} (h : Grouped cs) :
    Grouped (symbol x :: symbol y :: symbol z :: symbol w :: cs) := by
  obtain ⟨hlength, body, fill, rfl, hfill, hbody⟩ := h
  refine ⟨by simp only [List.length_cons]; omega,
    symbol x :: symbol y :: symbol z :: symbol w :: body, fill, rfl, hfill, ?_⟩
  simp only [List.forall_mem_cons]
  exact ⟨isSymbol_symbol x hx, isSymbol_symbol y hy, isSymbol_symbol z hz, isSymbol_symbol w hw,
    hbody⟩

theorem encode_grouped (bs : Bytes) : Grouped (encode bs) := by
  induction bs using encode.induct with
  | case1 => exact ⟨rfl, [], 0, rfl, by decide, by simp⟩
  | case2 a =>
      have ha := a.toNat_lt
      rw [encode_one]
      refine ⟨by simp, [_, _], 2, rfl, by decide, ?_⟩
      simp only [List.forall_mem_cons]
      exact ⟨isSymbol_symbol _ (by omega), isSymbol_symbol _ (by omega), by simp⟩
  | case3 a b =>
      have ha := a.toNat_lt
      have hb := b.toNat_lt
      rw [encode_two]
      refine ⟨by simp, [_, _, _], 1, rfl, by decide, ?_⟩
      simp only [List.forall_mem_cons]
      exact ⟨isSymbol_symbol _ (by omega), isSymbol_symbol _ (by omega),
        isSymbol_symbol _ (by omega), by simp⟩
  | case4 a b c rest ih =>
      have ha := a.toNat_lt
      have hb := b.toNat_lt
      have hc := c.toNat_lt
      rw [encode_group]
      exact ih.cons (by omega) (by omega) (by omega) (by omega)

theorem encode_ascii (bs : Bytes) : ∀ c ∈ encode bs, c.toNat < 0x80 := by
  obtain ⟨-, body, fill, heq, -, hbody⟩ := encode_grouped bs
  intro c hc
  rw [heq] at hc
  rcases List.mem_append.1 hc with hc | hc
  · exact isSymbol_ascii (hbody c hc)
  · rw [List.eq_of_mem_replicate hc]
    decide

theorem encode_head (bs : Bytes) : (encode bs).head? ≠ some '=' := by
  induction bs using encode.induct with
  | case1 => rintro ⟨⟩
  | case2 a | case3 a b | case4 a b c rest _ =>
      intro h
      have ha := a.toNat_lt
      exact symbol_ne_filling (a.toNat / 4) (by omega) (Option.some.inj h)

theorem decode?_encode (bs : Bytes) : decode? (encode bs) = some bs := by
  rw [decode?, if_neg (encode_head bs), decodeGroups_encode]

end Stencil.Base64
