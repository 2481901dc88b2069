import Stencil.Text.Utf8
import Mathlib.Tactic.IntervalCases

/-!
# Text as bytes and back

What is written for a character tells a reader by its first byte how many bytes
follow and where the next one lies, so a reader takes exactly the bytes of one
character, whatever stands behind them. Text that is written as bytes is
therefore read again.
-/

namespace Stencil.Text

variable {bs : Bytes}

theorem toNat_ofNat_small {n : Nat} (h : n < 256) : (UInt8.ofNat n).toNat = n := by
  rw [UInt8.toNat_ofNat', Nat.mod_eq_of_lt h]

/-- A byte that continues a character brings six bits. -/
theorem continuation_cons (bits : Nat) {low high more k : Nat} (hk : k < 64) (hlow : low ≤ 0x80 + k)
    (hhigh : 0x80 + k ≤ high) :
    continuation bits low high (more + 1) (UInt8.ofNat (0x80 + k) :: bs) =
      ((continuation (bits * 64 + k) 0x80 0xBF more bs).1 + 1,
        (continuation (bits * 64 + k) 0x80 0xBF more bs).2) := by
  have hbyte : (UInt8.ofNat (0x80 + k)).toNat = 0x80 + k := toNat_ofNat_small (by omega)
  rw [continuation, hbyte, Nat.add_sub_cancel_left, if_pos]
  rw [Bool.and_eq_true, decide_eq_true_eq, decide_eq_true_eq]
  exact ⟨hlow, hhigh⟩

/-- A continuing byte in front of the rest of a character. -/
theorem continuation_tail (bits : Nat) {low high more k : Nat} {tail : Bytes} {n : Nat} (hk : k < 64)
    (hlow : low ≤ 0x80 + k) (hhigh : 0x80 + k ≤ high)
    (hrest : continuation (bits * 64 + k) 0x80 0xBF more (tail ++ bs) = (tail.length, some n)) :
    continuation bits low high (more + 1) ((UInt8.ofNat (0x80 + k) :: tail) ++ bs) =
      (tail.length + 1, some n) := by
  rw [List.cons_append, continuation_cons bits hk hlow hhigh, hrest]

/-! ## First bytes -/

theorem lead_one {n : Nat} (h : n < 0x80) : Lead.ofByte? (UInt8.ofNat n) = some ⟨0, n, 0, 0⟩ := by
  rw [Lead.ofByte?, toNat_ofNat_small (by omega), if_pos h]

theorem lead_two {k : Nat} (hlow : 2 ≤ k) (hhigh : k < 0x20) :
    Lead.ofByte? (UInt8.ofNat (0xC0 + k)) = some ⟨1, k, 0x80, 0xBF⟩ := by
  interval_cases k <;> rfl

theorem lead_three {k : Nat} (h : k < 0x10) : Lead.ofByte? (UInt8.ofNat (0xE0 + k)) =
    some ⟨2, k, if k = 0 then 0xA0 else 0x80, if k = 0xD then 0x9F else 0xBF⟩ := by
  interval_cases k <;> rfl

theorem lead_four {k : Nat} (h : k < 5) : Lead.ofByte? (UInt8.ofNat (0xF0 + k)) =
    some ⟨3, k, if k = 0 then 0x90 else 0x80, if k = 4 then 0x8F else 0xBF⟩ := by
  interval_cases k <;> rfl

/-! ## Characters -/

/-- The first byte of a character is read as what it is, and the bytes behind it
add up to the character. -/
theorem utf8Char_read (c : Char) (bs : Bytes) : ∃ b tail lead, utf8Char c = b :: tail ∧
    Lead.ofByte? b = some lead ∧ continuation lead.bits lead.low lead.high lead.more (tail ++ bs) =
      (tail.length, some c.toNat) := by
  have hvalid : c.toNat < 0xD800 ∨ 0xDFFF < c.toNat ∧ c.toNat < 0x110000 := c.valid
  unfold utf8Char
  generalize c.toNat = n at hvalid
  simp only []
  split
  · next h1 => exact ⟨_, [], _, rfl, lead_one h1, rfl⟩
  · split
    · next h1 h2 =>
        refine ⟨_, _, _, rfl, lead_two (by omega) (by omega), ?_⟩
        refine continuation_tail _ (Nat.mod_lt _ (by omega)) (Nat.le_add_right _ _)
          (by dsimp only; omega) ?_
        rw [Nat.div_add_mod']
        rfl
    · split
      -- The range of the second byte leaves out overlong forms and surrogates.
      · next h1 h2 h3 =>
          refine ⟨_, _, _, rfl, lead_three (by omega), ?_⟩
          refine continuation_tail _ (Nat.mod_lt _ (by omega)) (by dsimp only; split <;> omega)
            (by dsimp only; split <;> omega) ?_
          refine continuation_tail _ (Nat.mod_lt _ (by omega)) (Nat.le_add_right _ _) (by omega) ?_
          have hn : (n / 4096 * 64 + n / 64 % 64) * 64 + n % 64 = n := by omega
          rw [hn]
          rfl
      · next h1 h2 h3 =>
          refine ⟨_, _, _, rfl, lead_four (by omega), ?_⟩
          refine continuation_tail _ (Nat.mod_lt _ (by omega)) (by dsimp only; split <;> omega)
            (by dsimp only; split <;> omega) ?_
          refine continuation_tail _ (Nat.mod_lt _ (by omega)) (Nat.le_add_right _ _) (by omega) ?_
          refine continuation_tail _ (Nat.mod_lt _ (by omega)) (Nat.le_add_right _ _) (by omega) ?_
          have hn : ((n / 262144 * 64 + n / 4096 % 64) * 64 + n / 64 % 64) * 64 + n % 64 = n := by
            omega
          rw [hn]
          rfl

theorem decodeWith_utf8Char {ε : Type} (onBad : Except ε Char) (c : Char) (bs : Bytes) :
    decodeWith onBad (utf8Char c ++ bs) = (decodeWith onBad bs).map (c :: ·) := by
  obtain ⟨b, tail, lead, hchar, hlead, hread⟩ := utf8Char_read c bs
  have hfirst : firstChar b (tail ++ bs) = (some c, tail.length) := by
    rw [firstChar, hlead]
    simp only [hread, Option.map_some, Char.ofNat_toNat]
  rw [hchar, List.cons_append, decodeWith]
  simp only [hfirst, List.drop_left]
  cases decodeWith onBad bs <;> rfl

/-! ## Texts -/

theorem decodeWith_utf8 {ε : Type} (onBad : Except ε Char) (cs : List Char) :
    decodeWith onBad (utf8 cs) = .ok cs := by
  induction cs with
  | nil => rw [utf8, List.flatMap_nil, decodeWith]
  | cons c cs ih =>
      rw [utf8, List.flatMap_cons, decodeWith_utf8Char]
      rw [utf8] at ih
      rw [ih]
      rfl

theorem decode?_utf8 (cs : List Char) : decode? (utf8 cs) = some cs := by
  rw [decode?, decodeWith_utf8]
  rfl

theorem decodeReplacing_utf8 (cs : List Char) : decodeReplacing (utf8 cs) = cs := by
  rw [decodeReplacing, decodeWith_utf8]

end Stencil.Text
