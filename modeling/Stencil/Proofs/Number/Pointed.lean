import Stencil.Proofs.Number.Numeral
import Stencil.Proofs.Text.Trim

/-!
# Numbers with a point that are read

Plain digits are read as they stand, for there are no low lines to take out of
them. So a number is cut at its point, and the digits on both sides of it are
those of one whole number with as many places as there are behind the point.
-/

namespace Stencil.Numeral

open Stencil.Text

variable {ds before after : List Char}

theorem joinedDigits?_plain (hne : ds ≠ []) (h : ∀ c ∈ ds, c.isDigit = true) :
    joinedDigits? ds = some ds := by
  induction ds with
  | nil => exact absurd rfl hne
  | cons d ds ih =>
      obtain ⟨hd, hds⟩ := List.forall_mem_cons.1 h
      have hdigit := isDigit_plain hd
      cases ds with
      | nil => rw [joinedDigits?, if_pos hdigit]
      | cons e ds =>
          have hline : e ≠ '_' := by
            rintro rfl
            exact absurd (hds _ List.mem_cons_self) (by decide)
          rw [joinedDigits?, if_pos hdigit, ih (by simp) hds]
          · rfl
          · exact fun heq => by cases heq
          · exact fun cs heq => hline (List.cons.inj heq).1

/-- Plain digits and what begins with no digit and no low line behind them. -/
theorem span_plain (h : ∀ c ∈ ds, c.isDigit = true) (rest : List Char)
    (hrest : ∀ c ∈ rest.head?, (isDigit c || c == '_') = false) :
    (ds ++ rest).takeWhile (fun c => isDigit c || c == '_') = ds ∧
      (ds ++ rest).dropWhile (fun c => isDigit c || c == '_') = rest :=
  span_append (fun c hc => by rw [isDigit_plain (h c hc), Bool.true_or]) hrest

theorem fraction?_plain (hne : ds ≠ []) (h : ∀ c ∈ ds, c.isDigit = true) :
    fraction? ds = some (ds, [], []) := by
  obtain ⟨htake, hdrop⟩ := span_plain h [] (by rintro _ ⟨⟩)
  rw [List.append_nil] at htake hdrop
  have hempty : ds.isEmpty = false := List.isEmpty_eq_false_iff.2 hne
  simp [fraction?, htake, hdrop, hempty, hne, joinedDigits?_plain hne h]

theorem fraction?_pointed (hbefore : before ≠ []) (hafter : after ≠ [])
    (h : ∀ c ∈ before, c.isDigit = true) (h' : ∀ c ∈ after, c.isDigit = true) :
    fraction? (before ++ '.' :: after) = some (before, after, []) := by
  have hpoint : (isDigit '.' || '.' == '_') = false := by decide
  obtain ⟨htake, hdrop⟩ := span_plain h ('.' :: after) (by rintro _ ⟨⟩; exact hpoint)
  obtain ⟨htake', hdrop'⟩ := span_plain h' [] (by rintro _ ⟨⟩)
  rw [List.append_nil] at htake' hdrop'
  have hempty : before.isEmpty = false := List.isEmpty_eq_false_iff.2 hbefore
  have hempty' : after.isEmpty = false := List.isEmpty_eq_false_iff.2 hafter
  simp [fraction?, htake, hdrop, htake', hdrop', hempty, hempty', hafter,
    joinedDigits?_plain hbefore h, joinedDigits?_plain hafter h']

/-! ## Signs and blanks -/

theorem not_isPadding {c : Char} (h : isBlank c = false) : isPadding c = false := by
  rw [isPadding, h, Bool.false_and]

/-- The characters of a number with a point are none that is dropped around it. -/
theorem isBlank_pointed (negative : Bool) (h : ∀ c ∈ before, c.isDigit = true)
    (h' : ∀ c ∈ after, c.isDigit = true) :
    ∀ c ∈ (if negative then ['-'] else []) ++ (before ++ '.' :: after), isBlank c = false := by
  intro c hc
  rcases List.mem_append.1 hc with hc | hc
  · split at hc
    · rw [List.mem_singleton.1 hc]
      decide
    · cases hc
  · rcases List.mem_append.1 hc with hc | hc
    · exact isBlank_plain (h c hc)
    · rcases List.mem_cons.1 hc with rfl | hc
      · decide
      · exact isBlank_plain (h' c hc)

/-- A sign or none, digits, a point and digits are read as a decimal. -/
theorem readFloat?_pointed (negative : Bool) (hbefore : before ≠ []) (hafter : after ≠ [])
    (h : ∀ c ∈ before, c.isDigit = true) (h' : ∀ c ∈ after, c.isDigit = true) :
    readFloat? ((if negative then ['-'] else []) ++ (before ++ '.' :: after)) = some
      (Binary64.ofDecimal negative (digitsValue (before ++ after)) (-(after.length : Int))) := by
  have htrim := trimWhile_of_none fun c hc => not_isPadding (isBlank_pointed negative h h' c hc)
  have hsign : splitSign ((if negative then ['-'] else []) ++ (before ++ '.' :: after)) =
      (negative, before ++ '.' :: after) := by
    cases negative with
    | true => rfl
    | false =>
        obtain ⟨c, before, rfl⟩ := List.exists_cons_of_ne_nil hbefore
        exact splitSign_digit (h c List.mem_cons_self) _
  simp only [readFloat?, htrim, hsign, fraction?_pointed hbefore hafter h h', exponent?]
  rw [Option.bind_eq_bind, Option.bind_some, Int.zero_sub]

end Stencil.Numeral
