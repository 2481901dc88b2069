import Stencil.Proofs.Number.Numeral
import Stencil.Proofs.Text.Trim
import Stencil.Value.Literal

/-!
# Literals that are written are read back

`Written` relates null, the truth values, the whole numbers that are not too
long and the texts of one line to the literals for them. Reading such a
literal gives the value with its sort, also for a text that looks like a
number or a keyword: it stands in quotes, and none of the others does.

Wherever a literal is read, blanks around it are trimmed first and the place
it stands in bounds it. So what is said here of its characters is what its
surroundings need: it is one line, no blank at either end, and what it begins
with.
-/

namespace Stencil.Literal

open Stencil.Text

/-- The literal that a value is written as. -/
inductive Written : List Char → Value → Prop
  | null : Written "null".toList .null
  | truth (b : Bool) : Written (if b then "true".toList else "false".toList) (.bool b)
  | whole {n : Int} {cs : List Char} : Numeral.writeInt? n = some cs → Written cs (.int n)
  | text {cs : List Char} : '"' ∉ cs → '\n' ∉ cs → Written ('"' :: (cs ++ ['"'])) (Value.ofChars cs)

/-! ## Quoted texts -/

section

variable {q : Char} {cs : List Char}

theorem unquoted?_quoted (hq : q = '"' ∨ q = '\'') : unquoted? (q :: (cs ++ [q])) = some cs := by
  rw [unquoted?, if_pos ⟨hq, List.getLast?_concat⟩, List.dropLast_concat]

theorem trim_quoted (hq : q = '"' ∨ q = '\'') : trim (q :: (cs ++ [q])) = q :: (cs ++ [q]) := by
  have hblank : isBlank q = false := by rcases hq with rfl | rfl <;> decide
  refine trimWhile_eq_self ?_ ?_
  · rintro c ⟨⟩
    exact hblank
  · intro c hc
    rw [← List.cons_append, List.getLast?_concat] at hc
    cases hc
    exact hblank

theorem read_quoted (hq : q = '"' ∨ q = '\'') :
    read (q :: (cs ++ [q])) = .ok (Value.ofChars cs) := by
  rw [read, unquoted?_quoted hq]

end

/-! ## Unquoted ones -/

/-- The characters of a literal without quotes. -/
def isBareChar (c : Char) : Bool := c == '-' || c.isDigit || c.isLower

theorem isBareChar_notBlank {c : Char} (h : isBareChar c = true) : isBlank c = false := by
  simp only [isBareChar, Bool.or_eq_true, beq_iff_eq] at h
  rcases h with (rfl | hdigit) | hlower
  · decide
  · exact Numeral.isBlank_plain hdigit
  · have hbounds := Bool.and_eq_true_iff.1 hlower
    have hlow : 0x61 ≤ c.toNat := of_decide_eq_true hbounds.1
    have hhigh : c.toNat ≤ 0x7A := of_decide_eq_true hbounds.2
    simp only [isBlank, Bool.or_eq_false_iff, Bool.and_eq_false_iff, decide_eq_false_iff_not,
      beq_eq_false_iff_ne]
    omega

/-- A bare character is none of those that are not bare. -/
theorem isBareChar_notMem {c : Char} {cs : List Char} (h : isBareChar c = true)
    (hcs : cs.any isBareChar = false) : c ∉ cs := by
  intro hc
  exact List.any_eq_false.1 hcs c hc h

theorem unquoted?_eq_none {cs : List Char} (h : ∀ c ∈ cs.head?, c ≠ '"' ∧ c ≠ '\'') :
    unquoted? cs = none := by
  cases cs with
  | nil => rfl
  | cons c cs =>
      have hc := h c rfl
      rw [unquoted?, if_neg]
      rintro ⟨hq | hq, _⟩
      · exact hc.1 hq
      · exact hc.2 hq

/-- The text of a whole number is read as that number. -/
theorem read_writeInt? {n : Int} {cs : List Char} (h : Numeral.writeInt? n = some cs) :
    read cs = .ok (.int n) := by
  obtain ⟨_, hchars⟩ := Numeral.writeInt?_chars h
  have hword : ∀ word : List Char, (∃ c ∈ word, c ≠ '-' ∧ c.isDigit = false) → cs ≠ word := by
    rintro word ⟨c, hc, hsign, hdigit⟩ rfl
    rcases hchars c hc with heq | heq
    · exact hsign heq
    · rw [hdigit] at heq
      cases heq
  have hquote : unquoted? cs = none := by
    refine unquoted?_eq_none fun c hc => ?_
    rcases hchars c (List.mem_of_mem_head? hc) with rfl | hdigit
    · decide
    · constructor
      · rintro rfl
        cases hdigit
      · rintro rfl
        cases hdigit
  have htrue : cs ≠ "true".toList := hword _ ⟨'t', by decide, by decide, by decide⟩
  have hfalse : cs ≠ "false".toList := hword _ ⟨'f', by decide, by decide, by decide⟩
  have hnull : cs ≠ "null".toList := hword _ ⟨'n', by decide, by decide, by decide⟩
  rw [read, hquote]
  simp only [htrue, hfalse, hnull, if_false, Numeral.isPointed_writeInt? h,
    Numeral.isWhole_writeInt? h, Numeral.wholeValue?_writeInt? h, Bool.false_eq_true, if_true]

section

variable {cs : List Char} {v : Value}

theorem read_written (h : Written cs v) : read cs = .ok v := by
  cases h with
  | null => rfl
  | truth b => cases b <;> rfl
  | whole h => exact read_writeInt? h
  | text _ _ => exact read_quoted (.inl rfl)

theorem Written.notStructured (h : Written cs v) : v.isStructured = false := by
  cases h <;> rfl

/-- A literal is a quoted text or made of letters, digits and a sign. -/
theorem Written.chars (h : Written cs v) :
    (∃ inner, cs = '"' :: (inner ++ ['"']) ∧ '"' ∉ inner ∧ '\n' ∉ inner) ∨
      cs ≠ [] ∧ ∀ c ∈ cs, isBareChar c = true := by
  cases h with
  | null => exact .inr ⟨by decide, List.all_eq_true.1 rfl⟩
  | truth b => cases b <;> exact .inr ⟨by decide, List.all_eq_true.1 rfl⟩
  | whole h =>
      obtain ⟨hne, hchars⟩ := Numeral.writeInt?_chars h
      refine .inr ⟨hne, fun c hc => ?_⟩
      rcases hchars c hc with rfl | hdigit
      · decide
      · simp [isBareChar, hdigit]
  | @text cs hquote hline => exact .inl ⟨cs, rfl, hquote, hline⟩

theorem Written.head (h : Written cs v) :
    ∃ c tail, cs = c :: tail ∧ (c = '"' ∨ isBareChar c = true) := by
  rcases h.chars with ⟨inner, rfl, _⟩ | ⟨hne, hchars⟩
  · exact ⟨_, _, rfl, .inl rfl⟩
  · obtain ⟨c, tail, rfl⟩ := List.exists_cons_of_ne_nil hne
    exact ⟨c, tail, rfl, .inr (hchars c List.mem_cons_self)⟩

theorem Written.inLine (h : Written cs v) : '\n' ∉ cs := by
  rcases h.chars with ⟨inner, rfl, _, hline⟩ | ⟨_, hchars⟩
  · simpa using hline
  · exact fun hmem => absurd (hchars _ hmem) (by decide)

theorem trim_written (h : Written cs v) : trim cs = cs := by
  rcases h.chars with ⟨inner, rfl, _⟩ | ⟨_, hchars⟩
  · exact trim_quoted (.inl rfl)
  · exact trimWhile_eq_self
      (fun c hc => isBareChar_notBlank (hchars c (List.mem_of_mem_head? hc)))
      (fun c hc => isBareChar_notBlank (hchars c (List.mem_of_getLast? hc)))

end

end Stencil.Literal
