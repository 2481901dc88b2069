import Mathlib.Data.List.TakeWhile
import Stencil.Number.Numeral

/-!
# Whole numbers that are written are read back

The digits that a whole number is written in are plain ones, so the text has
the shape of a whole number and not that of a number with a point, and its
value is the number. The count of digits that is too large to write is too
large to read as well.
-/

namespace Stencil.Numeral

open Stencil.Text

/-! ## Digits -/

theorem digitValue?_plain {c : Char} (h : c.isDigit = true) :
    digitValue? c = some (c.toNat - '0'.toNat) := by
  have hrange := Char.isDigit_iff_toNat.1 h
  have hascii : c.toNat < 0x80 := by
    have hnine : '9'.toNat = 57 := rfl
    omega
  rw [digitValue?]
  simp only [hascii, if_true, h]
  rfl

theorem isDigit_plain {c : Char} (h : c.isDigit = true) : isDigit c = true := by
  rw [isDigit, digitValue?_plain h]
  rfl

theorem isBlank_plain {c : Char} (h : c.isDigit = true) : isBlank c = false := by
  have hrange := Char.isDigit_iff_toNat.1 h
  have hzero : '0'.toNat = 48 := rfl
  have hnine : '9'.toNat = 57 := rfl
  simp only [isBlank, Bool.or_eq_false_iff, Bool.and_eq_false_iff, decide_eq_false_iff_not,
    beq_eq_false_iff_ne]
  omega

theorem digitsValue_plain {cs : List Char} (h : ∀ c ∈ cs, c.isDigit = true) :
    digitsValue cs = Nat.ofDigitChars 10 cs 0 := by
  have hfold : ∀ n, cs.foldl (fun n c => n * 10 + (digitValue? c).getD 0) n =
      Nat.ofDigitChars 10 cs n := by
    induction cs with
    | nil => intro n; rfl
    | cons c cs ih =>
        intro n
        have hnext := ih (fun d hd => h d (List.mem_cons_of_mem c hd))
        rw [List.foldl_cons, hnext, digitValue?_plain (h c List.mem_cons_self),
          Nat.ofDigitChars_eq_foldl, Nat.ofDigitChars_eq_foldl, List.foldl_cons, Nat.mul_comm]
        rfl
  exact hfold 0

theorem splitSign_digit {c : Char} (hc : c.isDigit = true) (cs : List Char) :
    splitSign (c :: cs) = (false, c :: cs) := by
  rw [splitSign]
  · rintro _ ⟨⟩
    cases hc
  · rintro _ ⟨⟩
    cases hc

theorem splitSign_plain {cs : List Char} (h : ∀ c ∈ cs, c.isDigit = true) :
    splitSign cs = (false, cs) := by
  cases cs with
  | nil => rfl
  | cons c cs => exact splitSign_digit (h c List.mem_cons_self) cs

theorem isPointed_of_isWhole {cs : List Char} (h : isWhole cs = true) : isPointed cs = false := by
  simp only [isWhole, Bool.and_eq_true, List.all_eq_true] at h
  simp only [isPointed, List.dropWhile_eq_nil_iff.2 h.2]

/-! ## Written numbers -/

theorem writeInt?_eq_some {n : Int} {cs : List Char} : writeInt? n = some cs ↔
    (Nat.toDigits 10 n.natAbs).length ≤ maxDigits ∧
      cs = if n < 0 then '-' :: Nat.toDigits 10 n.natAbs else Nat.toDigits 10 n.natAbs := by
  rw [writeInt?]
  split
  · next hlong => simp [Nat.not_le_of_lt hlong]
  · next hshort => simp [Nat.le_of_not_lt hshort, eq_comm]

theorem exists_intText? {n : Int} (h : (Nat.toDigits 10 n.natAbs).length ≤ maxDigits) :
    ∃ s, intText? n = some s := by
  rw [intText?, writeInt?_eq_some.2 ⟨h, rfl⟩]
  exact ⟨_, rfl⟩

theorem toDigits_plain (n : Nat) : ∀ c ∈ Nat.toDigits 10 n, c.isDigit = true :=
  fun _ hc => Nat.isDigit_of_mem_toDigits (by omega) (by omega) hc

/-- Only zero is written with a leading zero. -/
theorem toDigits_leading {n : Nat} (h : (Nat.toDigits 10 n).head? = some '0') : n = 0 := by
  induction n using Nat.strongRecOn with
  | ind n ih =>
      by_cases hn : n < 10
      · rw [Nat.toDigits_of_lt_base hn] at h
        have hdigit : ∀ d < 10, d.digitChar = '0' → d = 0 := by decide
        exact hdigit n hn (Option.some.inj h)
      · rw [Nat.toDigits_of_base_le (by omega) (by omega)] at h
        obtain ⟨c, front, hfront⟩ :=
          List.exists_cons_of_ne_nil (Nat.toDigits_ne_nil (b := 10) (n := n / 10))
        have htenth := ih (n / 10) (by omega) (by rw [hfront] at h ⊢; exact h)
        omega

/-- The text of a whole number is its digits, with a sign in front of them if
it is negative. -/
theorem writeInt?_some {n : Int} {cs : List Char} (h : writeInt? n = some cs) :
    ∃ digits, digits ≠ [] ∧ (∀ c ∈ digits, c.isDigit = true) ∧ digits.length ≤ maxDigits ∧
      digitsValue digits = n.natAbs ∧ cs = if n < 0 then '-' :: digits else digits := by
  obtain ⟨hlength, rfl⟩ := writeInt?_eq_some.1 h
  refine ⟨_, Nat.toDigits_ne_nil, toDigits_plain _, hlength, ?_, rfl⟩
  rw [digitsValue_plain (toDigits_plain _), Nat.ofDigitChars_toDigits (by omega) (by omega)]

section

variable {n : Int} {cs : List Char}

theorem splitSign_writeInt? (h : writeInt? n = some cs) :
    ∃ digits, splitSign cs = (decide (n < 0), digits) ∧ digits ≠ [] ∧
      (∀ c ∈ digits, c.isDigit = true) ∧ digits.length ≤ maxDigits ∧
        digitsValue digits = n.natAbs := by
  obtain ⟨digits, hne, hplain, hlength, hvalue, rfl⟩ := writeInt?_some h
  refine ⟨digits, ?_, hne, hplain, hlength, hvalue⟩
  split
  · next hneg => rw [splitSign, decide_eq_true hneg]
  · next hneg => rw [splitSign_plain hplain, decide_eq_false hneg]

theorem isWhole_writeInt? (h : writeInt? n = some cs) : isWhole cs = true := by
  obtain ⟨digits, hsign, hne, hplain, _⟩ := splitSign_writeInt? h
  simp only [isWhole, hsign, Bool.and_eq_true, Bool.not_eq_true', List.isEmpty_eq_false_iff,
    List.all_eq_true]
  exact ⟨hne, fun c hc => isDigit_plain (hplain c hc)⟩

theorem isPointed_writeInt? (h : writeInt? n = some cs) : isPointed cs = false :=
  isPointed_of_isWhole (isWhole_writeInt? h)

theorem wholeValue?_writeInt? (h : writeInt? n = some cs) : wholeValue? cs = some n := by
  obtain ⟨digits, hsign, _, _, hlength, hvalue⟩ := splitSign_writeInt? h
  simp only [wholeValue?, hsign, hvalue]
  rw [if_neg (by omega)]
  split
  · next hneg =>
      have hneg := of_decide_eq_true hneg
      congr 1
      omega
  · next hneg =>
      have hneg := of_decide_eq_false (Bool.eq_false_iff.2 hneg)
      congr 1
      omega

theorem writeInt?_chars (h : writeInt? n = some cs) :
    cs ≠ [] ∧ ∀ c ∈ cs, c = '-' ∨ c.isDigit = true := by
  obtain ⟨digits, hne, hplain, _, _, rfl⟩ := writeInt?_some h
  split
  · refine ⟨by simp, fun c hc => ?_⟩
    rcases List.mem_cons.1 hc with rfl | hc
    · exact .inl rfl
    · exact .inr (hplain c hc)
  · exact ⟨hne, fun c hc => .inr (hplain c hc)⟩

end

end Stencil.Numeral
