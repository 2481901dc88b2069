import Stencil.Json.Reader
import Stencil.Json.Writer
import Stencil.Proofs.Chaining
import Stencil.Proofs.Encoding.Hex
import Stencil.Proofs.Number.Numeral
import Stencil.Proofs.Text.Trim

/-!
# The parts of a document are read back

A string ends at its own quote, for every quote inside it is written behind a
backslash. A whole number ends where something stands that is no digit and
begins no fraction and no exponent. So both are read off the front of whatever
follows them.
-/

namespace Stencil.Json

open Stencil.Text

/-! ## Strings -/

theorem hexDigits_control : ∀ n < 0x20,
    hexDigits 4 n = ['0', '0', hexDigit (n / 16), hexDigit (n % 16)] := by decide

theorem unitChar?_control {n : Nat} (hn : n < 0x20) (rest : List Char) :
    unitChar? (hexDigits 4 n ++ rest) = some (Char.ofNat n, rest) := by
  have hunit : unit? (hexDigits 4 n ++ rest) = some (n, rest) := by
    have hhigh := Hex.hexValue?_hexDigit (n / 16) (by omega)
    have hlow := Hex.hexValue?_hexDigit (n % 16) (by omega)
    have hzero : hexValue? '0' = some 0 := rfl
    rw [hexDigits_control n hn]
    simp only [List.cons_append, List.nil_append, unit?, hzero, hhigh, hlow]
    show some (((0 * 16 + 0) * 16 + n / 16) * 16 + n % 16, rest) = some (n, rest)
    rw [Nat.zero_mul, Nat.zero_add, Nat.div_add_mod']
  rw [unitChar?, hunit]
  show (if 0xD800 ≤ n ∧ n < 0xDC00 then _ else if 0xDC00 ≤ n ∧ n < 0xE000 then _ else _) = _
  rw [if_neg (by omega), if_neg (by omega)]

/-- A character is written by an escape of its own, by its number or as it is. -/
theorem escapeChar_cases (c : Char) :
    (∃ e, e ≠ 'u' ∧ escape? e = some c ∧ escapeChar c = ['\\', e]) ∨
      (c.toNat < 0x20 ∧ escapeChar c = '\\' :: 'u' :: hexDigits 4 c.toNat) ∨
      (c ≠ '"' ∧ c ≠ '\\' ∧ ¬ c.toNat < 0x20 ∧ escapeChar c = [c]) := by
  by_cases hquote : c = '"'
  · exact .inl ⟨'"', by decide, by rw [hquote]; rfl, by rw [hquote]; rfl⟩
  by_cases hback : c = '\\'
  · exact .inl ⟨'\\', by decide, by rw [hback]; rfl, by rw [hback]; rfl⟩
  unfold escapeChar
  rw [if_neg hquote, if_neg hback]
  iterate 5
    split
    · next h => exact .inl ⟨_, by decide, by rw [h]; rfl, rfl⟩
  split
  · next hcontrol => exact .inr (.inl ⟨hcontrol, rfl⟩)
  · next hcontrol => exact .inr (.inr ⟨hquote, hback, hcontrol, rfl⟩)

/-- One written character is one character read. -/
theorem readString_escapeChar (fuel : Nat) (c : Char) (rest : List Char) :
    readString (fuel + 1) (escapeChar c ++ rest) =
      (readString fuel rest).map fun r => (c :: r.1, r.2) := by
  have hmap : (readString fuel rest >>= fun r => Except.ok (c :: r.1, r.2)) =
      (readString fuel rest).map fun r => (c :: r.1, r.2) := by
    cases readString fuel rest <;> rfl
  rw [← hmap]
  rcases escapeChar_cases c with
    ⟨e, hnumber, hescape, heq⟩ | ⟨hcontrol, heq⟩ | ⟨hquote, hback, hcontrol, heq⟩
  · rw [heq, List.cons_append, List.singleton_append, readString, if_neg (by decide), if_pos rfl,
      hescape]
    exact hnumber
  · rw [heq, List.cons_append, List.cons_append, readString.eq_def]
    simp only [unitChar?_control hcontrol, Char.ofNat_toNat]
    rfl
  · rw [heq, List.singleton_append, readString.eq_def]
    simp only [hquote, hback, hcontrol, if_false]

theorem readString_written {cs : List Char} : ∀ {fuel : Nat}, cs.length < fuel → ∀ rest,
    readString fuel (cs.flatMap escapeChar ++ '"' :: rest) = .ok (cs, rest) := by
  induction cs with
  | nil =>
      intro fuel hfuel rest
      obtain ⟨fuel, rfl⟩ := Nat.exists_eq_succ_of_ne_zero (Nat.ne_of_gt hfuel)
      rfl
  | cons c cs ih =>
      intro fuel hfuel rest
      obtain ⟨fuel, rfl⟩ := Nat.exists_eq_succ_of_ne_zero (Nat.ne_of_gt (Nat.zero_lt_of_lt hfuel))
      rw [List.flatMap_cons, List.append_assoc, readString_escapeChar,
        ih (Nat.lt_of_succ_lt_succ hfuel)]
      rfl

theorem length_le_written (cs : List Char) : cs.length ≤ (cs.flatMap escapeChar).length := by
  have hchar : ∀ c, 1 ≤ (escapeChar c).length := by
    intro c
    rcases escapeChar_cases c with ⟨e, -, -, heq⟩ | ⟨-, heq⟩ | ⟨-, -, -, heq⟩ <;> simp [heq]
  induction cs with
  | nil => simp
  | cons c cs ih =>
      rw [List.flatMap_cons, List.length_append, List.length_cons]
      have := hchar c
      omega

/-- Behind its opening quote a written string is read as its text. -/
theorem readString_writeString (cs rest : List Char) :
    ∃ body, writeString cs ++ rest = '"' :: body ∧
      readString (body.length + 1) body = .ok (cs, rest) := by
  refine ⟨cs.flatMap escapeChar ++ '"' :: rest, by simp [writeString], readString_written ?_ rest⟩
  have := length_le_written cs
  rw [List.length_append]
  omega

/-! ## Numbers -/

/-- What can stand behind a value: nothing that continues a number. -/
def Ends (rest : List Char) : Prop :=
  ∀ c ∈ rest.head?, c.isDigit = false ∧ c ≠ '.' ∧ c ≠ 'e' ∧ c ≠ 'E'

section

variable {rest : List Char}

theorem wholeDigits_append {digits : List Char} (hne : digits ≠ [])
    (h : ∀ c ∈ digits, c.isDigit = true) (hzero : digits.head? = some '0' → digits = ['0'])
    (hrest : Ends rest) : wholeDigits (digits ++ rest) = (digits, rest) := by
  obtain ⟨c, tail, rfl⟩ := List.exists_cons_of_ne_nil hne
  by_cases hc : c = '0'
  · obtain rfl := hc
    rw [hzero rfl]
    rfl
  · obtain ⟨htake, hdrop⟩ := span_append h fun c hc => (hrest c hc).1
    rw [wholeDigits, htake, hdrop]
    rintro _ ⟨⟩
    exact hc rfl

theorem fractionDigits_ends (hrest : Ends rest) : fractionDigits rest = ([], rest) := by
  rw [fractionDigits]
  rintro _ rfl
  exact (hrest '.' rfl).2.1 rfl

theorem exponentPart_ends (hrest : Ends rest) : exponentPart rest = (none, rest) := by
  cases rest with
  | nil => rfl
  | cons c rest =>
      have hc := hrest c rfl
      rw [exponentPart, if_neg]
      rintro (h | h)
      · exact hc.2.2.1 h
      · exact hc.2.2.2 h

/-- Behind its sign a whole number is its digits. -/
theorem readNumber_digits {digits : List Char} {n : Int} (negative : Bool) (hne : digits ≠ [])
    (h : ∀ c ∈ digits, c.isDigit = true) (hzero : digits.head? = some '0' → digits = ['0'])
    (hvalue : Numeral.wholeValue? (if negative then '-' :: digits else digits) = some n)
    (hrest : Ends rest) :
    readNumber ((if negative then '-' :: digits else digits) ++ rest) = .ok (.int n, rest) := by
  have hempty : digits.isEmpty = false := List.isEmpty_eq_false_iff.2 hne
  have hwhole := wholeDigits_append hne h hzero hrest
  cases negative with
  | true =>
      rw [if_pos rfl] at hvalue ⊢
      rw [List.cons_append, readNumber]
      simp [hwhole, hempty, fractionDigits_ends hrest, exponentPart_ends hrest, hvalue]
  | false =>
      rw [if_neg Bool.false_ne_true] at hvalue ⊢
      unfold readNumber
      split
      · next heq =>
          split at heq
          · next hsign =>
              obtain ⟨c, tail, rfl⟩ := List.exists_cons_of_ne_nil hne
              cases hsign
              exact absurd (h '-' List.mem_cons_self) (by decide)
          · cases heq
            simp [hwhole, hempty, fractionDigits_ends hrest, exponentPart_ends hrest, hvalue]

theorem readNumber_written {n : Int} {cs : List Char} (h : Numeral.writeInt? n = some cs)
    (hrest : Ends rest) : readNumber (cs ++ rest) = .ok (.int n, rest) := by
  have hzero : (Nat.toDigits 10 n.natAbs).head? = some '0' → Nat.toDigits 10 n.natAbs = ['0'] := by
    intro h
    rw [Numeral.toDigits_leading h]
    rfl
  have hvalue := Numeral.wholeValue?_writeInt? h
  obtain ⟨-, rfl⟩ := Numeral.writeInt?_eq_some.1 h
  have hread := readNumber_digits (decide (n < 0)) Nat.toDigits_ne_nil
    (Numeral.toDigits_plain n.natAbs) hzero (by simpa using hvalue) hrest
  simpa using hread

end

end Stencil.Json
