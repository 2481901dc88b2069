import Stencil.Text.Case

/-!
# The case of ASCII characters

Below the first code point that needs a table, changing case is a map on single
characters: no character becomes several, and none looks at its neighbours.
There are few enough of these characters that what is said of one of them is
decided for all of them at once.
-/

namespace Stencil.Text

/-! ## Deciding about characters

A statement about the characters of a text is decided by going through the text,
also where all characters could be gone through. -/

instance (priority := high) decidableAllChars (p : Char → Prop) [DecidablePred p] (cs : List Char) :
    Decidable (∀ c ∈ cs, p c) := List.decidableBAll p cs

instance (priority := high) decidableAllChar? (p : Char → Prop) [DecidablePred p]
    (c? : Option Char) : Decidable (∀ c ∈ c?, p c) := Option.decidableForallMem c?

def IsAscii (cs : List Char) : Prop := ∀ c ∈ cs, c.toNat < 0x80

instance (cs : List Char) : Decidable (IsAscii cs) :=
  inferInstanceAs (Decidable (∀ c ∈ cs, c.toNat < 0x80))

section

variable {c : Char} {cs ds : List Char}

theorem IsAscii.head (h : IsAscii (c :: cs)) : c.toNat < 0x80 := h c List.mem_cons_self

theorem IsAscii.tail (h : IsAscii (c :: cs)) : IsAscii cs :=
  fun d hd => h d (List.mem_cons_of_mem c hd)

theorem isAscii_cons : IsAscii (c :: cs) ↔ c.toNat < 0x80 ∧ IsAscii cs := List.forall_mem_cons

theorem isAscii_append : IsAscii (cs ++ ds) ↔ IsAscii cs ∧ IsAscii ds := List.forall_mem_append

theorem IsAscii.filter (h : IsAscii cs) (p : Char → Bool) : IsAscii (cs.filter p) :=
  fun c hc => h c (List.mem_filter.1 hc).1

/-- What holds of every code point below `0x80` holds of every ASCII
character. -/
theorem ascii_all {p : Char → Prop} (h : ∀ n < 0x80, p (Char.ofNat n)) (hc : c.toNat < 0x80) :
    p c := by
  have hp := h c.toNat hc
  rwa [Char.ofNat_toNat] at hp

/-! ## Single characters -/

theorem upperOf_ascii (hc : c.toNat < 0x80) : upperOf c = [c.toUpper] := by
  rw [upperOf, if_pos hc]

theorem lowerOf_ascii (hc : c.toNat < 0x80) : lowerOf c = [c.toLower] := by
  rw [lowerOf, if_pos hc]

theorem isLower_ascii (hc : c.toNat < 0x80) : isLower c = c.isLower := by
  rw [isLower, if_pos hc]

theorem toLower_ascii (hc : c.toNat < 0x80) : c.toLower.toNat < 0x80 :=
  ascii_all (p := fun c => c.toLower.toNat < 0x80) (by decide) hc

theorem toUpper_toLower (hc : c.toNat < 0x80) : c.toLower.toUpper = c.toUpper :=
  ascii_all (p := fun c => c.toLower.toUpper = c.toUpper) (by decide) hc

/-! ## Texts -/

theorem lowerAfter_ascii (before : List Char) (h : IsAscii cs) :
    lowerAfter before cs = cs.map Char.toLower := by
  induction cs generalizing before with
  | nil => rfl
  | cons c cs ih =>
      have hsigma : c ≠ '\u03A3' := by
        rintro rfl
        exact absurd h.head (by decide)
      rw [lowerAfter, if_neg hsigma, lowerOf_ascii h.head, ih _ h.tail]
      rfl

theorem lower_ascii (h : IsAscii cs) : lower cs = cs.map Char.toLower := lowerAfter_ascii [] h

theorem IsAscii.map_toLower (h : IsAscii cs) : IsAscii (cs.map Char.toLower) := by
  intro c hc
  obtain ⟨d, hd, rfl⟩ := List.mem_map.1 hc
  exact toLower_ascii (h d hd)

end

end Stencil.Text
