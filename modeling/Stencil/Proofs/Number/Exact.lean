import Mathlib.Algebra.Group.Nat.Defs
import Stencil.Number.FixedPlaces
import Stencil.Proofs.Number.Numeral

/-!
# Whole numbers that are exact

A whole number has the same leading binary digit whether it is given as itself or
as a quotient that happens to be whole, so it is rounded at the same digit. Up to
`2 ^ 53` that digit leaves nothing to round, and the floating number stands for
the whole number exactly. Then its hundredths are whole as well, and it is
written with its own digits and two zeros.
-/

namespace Stencil.Binary64

/-! ## Quotients that are whole -/

theorem roundHalfEven_whole (q : Nat) {den : Nat} (hden : 0 < den) :
    roundHalfEven (q * den) den = q := by
  rw [roundHalfEven, Nat.mul_div_cancel q hden, Nat.mul_mod_left]
  simp only [Nat.mul_zero, hden, if_true]

/-- The leading digit of a quotient is found between the powers that it lies
between, whatever the two logarithms say. -/
theorem leadingExponent_eq {num den k : Nat} (hden : 0 < den) (hlow : den * 2 ^ k ≤ num)
    (hhigh : num < den * 2 ^ (k + 1)) : leadingExponent num den = k := by
  have hpos : 0 < num := Nat.lt_of_lt_of_le (Nat.mul_pos hden (Nat.two_pow_pos k)) hlow
  have hnum : 2 ^ num.log2 ≤ num ∧ num < 2 ^ (num.log2 + 1) :=
    ⟨Nat.log2_self_le hpos.ne', Nat.lt_log2_self⟩
  have hden' : 2 ^ den.log2 ≤ den ∧ den < 2 ^ (den.log2 + 1) :=
    ⟨Nat.log2_self_le hden.ne', Nat.lt_log2_self⟩
  have hleast : den.log2 + k ≤ num.log2 := by
    have h : 2 ^ (den.log2 + k) < 2 ^ (num.log2 + 1) := calc
      2 ^ (den.log2 + k) = 2 ^ den.log2 * 2 ^ k := Nat.pow_add 2 _ _
      _ ≤ den * 2 ^ k := Nat.mul_le_mul_right _ hden'.1
      _ ≤ num := hlow
      _ < 2 ^ (num.log2 + 1) := hnum.2
    have := (Nat.pow_lt_pow_iff_right (by omega)).1 h
    omega
  have hmost : num.log2 ≤ den.log2 + k + 1 := by
    have h : 2 ^ num.log2 < 2 ^ (den.log2 + 1 + (k + 1)) := calc
      2 ^ num.log2 ≤ num := hnum.1
      _ < den * 2 ^ (k + 1) := hhigh
      _ ≤ 2 ^ (den.log2 + 1) * 2 ^ (k + 1) := Nat.mul_le_mul_right _ hden'.2.le
      _ = 2 ^ (den.log2 + 1 + (k + 1)) := (Nat.pow_add 2 _ _).symm
    have := (Nat.pow_lt_pow_iff_right (by omega)).1 h
    omega
  -- The difference of the logarithms is right or one too large, and is tested for that.
  rcases Nat.lt_or_ge (den.log2 + k) num.log2 with hlt | hge
  · have hk : (num.log2 : Int) - den.log2 = (k + 1 : Nat) := by omega
    simp only [leadingExponent, hk, Int.natCast_nonneg, if_true, Int.toNat_natCast, Nat.pow_eq,
      Nat.not_le.2 hhigh, if_false]
    omega
  · have hk : (num.log2 : Int) - den.log2 = k := by omega
    simp only [leadingExponent, hk, Int.natCast_nonneg, if_true, Int.toNat_natCast, Nat.pow_eq,
      hlow]

/-! ## Whole numbers up to `2 ^ 53` -/

theorem ratio_neg (m k : Nat) : ratio m (-(k : Int)) = (m, 2 ^ k) := by
  cases k with
  | zero => simp [ratio]
  | succ k =>
      have hneg : ¬ (0 : Int) ≤ -((k + 1 : Nat) : Int) := by omega
      rw [ratio, if_neg hneg, Int.neg_neg, Int.toNat_natCast, Nat.pow_eq]

/-- The floating number stands for the whole number `n`. -/
def StandsFor (m : Nat) (e : Int) (n : Nat) : Prop :=
  (ratio m e).1 = n * (ratio m e).2 ∧ 0 < (ratio m e).2

/-- Where rounding gives a mantissa that needs no carry, that is the number. -/
theorem ofRatio_eq {num den m : Nat} {e : Int} (hnum : num ≠ 0)
    (hexponent : max (leadingExponent num den - 52) minExponent = e)
    (hrounded : (if 0 ≤ e then roundHalfEven num (den * Nat.pow 2 e.toNat)
      else roundHalfEven (num * Nat.pow 2 (-e).toNat) den) = m)
    (hm : m < 2 ^ 53) (he : e ≤ maxExponent) (negative : Bool) :
    ofRatio negative num den = .finite negative m e := by
  have hcarry : ¬ m = Nat.pow 2 53 := hm.ne
  rw [ofRatio, if_neg hnum]
  dsimp only
  rw [hexponent, hrounded, if_neg hcarry]
  exact if_neg (Int.not_lt.2 he)

/-- Below `2 ^ 53` the mantissa fills the places behind the leading digit with
zeros. -/
theorem ofRatio_below {n den : Nat} (hpos : 0 < n) (hn : n < 2 ^ 53) (hden : 0 < den)
    (negative : Bool) : ofRatio negative (n * den) den =
      .finite negative (n * 2 ^ (52 - n.log2)) (-((52 - n.log2 : Nat) : Int)) := by
  have hlog : n.log2 ≤ 52 := Nat.le_of_lt_succ ((Nat.log2_lt hpos.ne').2 hn)
  have hleading : leadingExponent (n * den) den = n.log2 := by
    refine leadingExponent_eq hden ?_ ?_
    · rw [Nat.mul_comm]
      exact Nat.mul_le_mul_right den (Nat.log2_self_le hpos.ne')
    · rw [Nat.mul_comm den]
      exact Nat.mul_lt_mul_of_pos_right Nat.lt_log2_self hden
  generalize hk : 52 - n.log2 = k
  refine ofRatio_eq (Nat.mul_pos hpos hden).ne' ?_ ?_ ?_ ?_ negative
  · rw [hleading, minExponent]
    omega
  · split
    · next hzero =>
        obtain rfl : k = 0 := by omega
        simpa using roundHalfEven_whole n hden
    · rw [Int.neg_neg, Int.toNat_natCast, Nat.pow_eq, Nat.mul_right_comm]
      exact roundHalfEven_whole _ hden
  · calc
      n * 2 ^ k < 2 ^ (n.log2 + 1) * 2 ^ k :=
        Nat.mul_lt_mul_of_pos_right Nat.lt_log2_self (Nat.two_pow_pos k)
      _ = 2 ^ 53 := by rw [← Nat.pow_add]; congr 1; omega
  · rw [maxExponent]
    omega

theorem ofRatio_top {den : Nat} (hden : 0 < den) (negative : Bool) :
    ofRatio negative (2 ^ 53 * den) den = .finite negative (2 ^ 52) 1 := by
  have hleading : leadingExponent (2 ^ 53 * den) den = (53 : Nat) :=
    leadingExponent_eq hden (by omega) (by omega)
  refine ofRatio_eq (by omega) ?_ ?_ (by omega) (by decide) negative
  · rw [hleading, minExponent]
    omega
  · have hhalf : 2 ^ 53 * den = 2 ^ 52 * (den * 2) := by omega
    rw [if_pos (by omega), hhalf]
    exact roundHalfEven_whole _ (by omega)

/-- Up to `2 ^ 53` every quotient that is whole gives one and the same floating
number, and that stands for it exactly. -/
theorem exists_ofRatio {n : Nat} (hn : n ≤ 2 ^ 53) : ∃ m e, StandsFor m e n ∧
    ∀ negative den, 0 < den → ofRatio negative (n * den) den = .finite negative m e := by
  have hstands : ∀ k : Nat, StandsFor (n * 2 ^ k) (-(k : Int)) n := fun k => by
    rw [StandsFor, ratio_neg]
    exact ⟨rfl, Nat.two_pow_pos k⟩
  rcases Nat.eq_zero_or_pos n with rfl | hpos
  · obtain ⟨k, hk⟩ : ∃ k : Nat, minExponent = -(k : Int) := ⟨1074, rfl⟩
    refine ⟨0, minExponent, ?_, fun negative den _ => ?_⟩
    · rw [hk]
      simpa using hstands k
    · rw [Nat.zero_mul, ofRatio, if_pos rfl]
  · rcases Nat.lt_or_eq_of_le hn with hlt | rfl
    · exact ⟨_, _, hstands _, fun negative den hden => ofRatio_below hpos hlt hden negative⟩
    · exact ⟨2 ^ 52, 1, ⟨rfl, Nat.one_pos⟩, fun negative den hden => ofRatio_top hden negative⟩

/-- The hundredths of such a number read as a decimal give it again. -/
theorem ofDecimal_hundredths {n : Nat} (hn : n ≤ 2 ^ 53) (negative : Bool) :
    ofDecimal negative (n * 100) (-2) = ofRatio negative (n * 100) 100 := by
  rcases Nat.eq_zero_or_pos n with rfl | hpos
  · rw [Nat.zero_mul, ofDecimal, if_pos rfl, ofRatio, if_pos rfl]
  · have hlog : (n * 100).log2 < 60 := (Nat.log2_lt (by omega)).2 (by omega)
    have hlarge : ¬ decimalReach < ((n * 100).log2 : Int) * 3 / 10 + -2 := by
      rw [decimalReach]
      omega
    have hsmall : ¬ ((n * 100).log2 : Int) * 3 / 10 + -2 <
        -decimalReach - ((n * 100).log2 : Int) := by
      rw [decimalReach]
      omega
    rw [ofDecimal, if_neg (by omega)]
    dsimp only
    rw [if_neg hlarge, if_neg hsmall, if_neg (by decide)]
    rfl

/-- Such a number is written with its own digits, grouped, and no hundredths. -/
theorem toGroupedHundredths_whole {m n : Nat} {e : Int} (h : StandsFor m e n) (negative : Bool) :
    (finite negative m e).toGroupedHundredths =
      (if negative then ['-'] else []) ++ groupThousands (Nat.toDigits 10 n) ++
        ['.', '0', '0'] := by
  obtain ⟨hvalue, hden⟩ := h
  have hrounded : roundHalfEven ((ratio m e).1 * 100) (ratio m e).2 = n * 100 := by
    rw [hvalue, Nat.mul_right_comm]
    exact roundHalfEven_whole _ hden
  rw [toGroupedHundredths]
  dsimp only
  rw [hrounded, Nat.mul_mod_left, Nat.mul_div_cancel n (by omega)]
  rfl

end Stencil.Binary64
