import Stencil.Proofs.Filters.Inverses
import Stencil.Proofs.Text.Case

/-!
# Recasing words twice is recasing them once

The filters that recase words first join them, each with a capital, and then
look for the boundaries again: before a capital behind a small letter. Every
stage keeps a text up to separators and case, which is one lemma per stage about
`bare`.

That a second run changes nothing is a matter of where the capitals are. Joined
words (`Humped`) have none of the separators and a capital behind every blank,
so joining them again does nothing. Words with low lines are joined by the
second run into a text that is `settled`: its capitals are those that a hump or a
blank calls for, and the humps are the same as before.
-/

namespace Stencil.Words

open Stencil.Text

section

variable {b : Bool} {c d : Char} {cs ds : List Char}

/-! ## Characters -/

def isSeparator (c : Char) : Bool := c == ' ' || c == '-' || c == '_'

/-- One character is the other up to its case. -/
structure Recased (c d : Char) : Prop where
  ascii : d.toNat < 0x80
  separator : isSeparator d = isSeparator c
  blank : isBlank d = isBlank c
  lower : d.toLower = c.toLower

theorem recased_self (hc : c.toNat < 0x80) : Recased c c := ⟨hc, rfl, rfl, rfl⟩

theorem recased_toUpper (hc : c.toNat < 0x80) : Recased c c.toUpper where
  ascii := ascii_all (p := fun c => c.toUpper.toNat < 0x80) (by decide) hc
  separator := ascii_all (p := fun c => isSeparator c.toUpper = isSeparator c) (by decide) hc
  blank := ascii_all (p := fun c => isBlank c.toUpper = isBlank c) (by decide) hc
  lower := ascii_all (p := fun c => c.toUpper.toLower = c.toLower) (by decide) hc

theorem recased_toLower (hc : c.toNat < 0x80) : Recased c c.toLower where
  ascii := ascii_all (p := fun c => c.toLower.toNat < 0x80) (by decide) hc
  separator := ascii_all (p := fun c => isSeparator c.toLower = isSeparator c) (by decide) hc
  blank := ascii_all (p := fun c => isBlank c.toLower = isBlank c) (by decide) hc
  lower := ascii_all (p := fun c => c.toLower.toLower = c.toLower) (by decide) hc

theorem toUpper_toUpper (hc : c.toNat < 0x80) : c.toUpper.toUpper = c.toUpper :=
  ascii_all (p := fun c => c.toUpper.toUpper = c.toUpper) (by decide) hc

theorem toUpper_blank (hc : c.toNat < 0x80) (h : isBlank c = true) : c.toUpper = c :=
  ascii_all (p := fun c => isBlank c = true → c.toUpper = c) (by decide) hc h

/-! ## Texts up to case and separators -/

/-- A text in small letters without the separators of words. -/
def bare (cs : List Char) : List Char := lower (cs.filter fun c => !isSeparator c)

theorem bare_cons (h : IsAscii (c :: cs)) :
    bare (c :: cs) = (if isSeparator c then [] else [c.toLower]) ++ bare cs := by
  rw [bare, bare, List.filter_cons, lower_ascii (h.tail.filter _)]
  cases hc : isSeparator c with
  | true => rw [if_neg (by simp), lower_ascii (h.tail.filter _)]; rfl
  | false =>
      rw [if_pos (by simp), lower_ascii (isAscii_cons.2 ⟨h.head, h.tail.filter _⟩)]
      rfl

theorem bare_recased (hd : Recased c d) (h : IsAscii (c :: cs)) (hds : IsAscii ds)
    (hbare : bare ds = bare cs) : bare (d :: ds) = bare (c :: cs) := by
  rw [bare_cons h, bare_cons (isAscii_cons.2 ⟨hd.ascii, hds⟩), hd.separator, hd.lower, hbare]

/-- Among separators it does not matter which one it is. -/
theorem bare_separators {f : Char → Char} (h : IsAscii cs)
    (hf : ∀ c, f c = c ∨ isSeparator c = true ∧ isSeparator (f c) = true ∧ (f c).toNat < 0x80) :
    IsAscii (cs.map f) ∧ bare (cs.map f) = bare cs := by
  induction cs with
  | nil => exact ⟨h, rfl⟩
  | cons c cs ih =>
      obtain ⟨hascii, hbare⟩ := ih h.tail
      rw [List.map_cons]
      rcases hf c with hc | ⟨hc, hsep, hfc⟩
      · rw [hc]
        exact ⟨isAscii_cons.2 ⟨h.head, hascii⟩, bare_recased (recased_self h.head) h hascii hbare⟩
      · have hcons := isAscii_cons.2 ⟨hfc, hascii⟩
        refine ⟨hcons, ?_⟩
        rw [bare_cons hcons, bare_cons h, hc, hsep, hbare]
        rfl

theorem spaced_bare (h : IsAscii cs) : IsAscii (spaced cs) ∧ bare (spaced cs) = bare cs := by
  refine bare_separators h fun c => ?_
  split
  · next hsep => rcases hsep with rfl | rfl <;> exact .inr (by decide)
  · exact .inl rfl

theorem bare_unspaced (cs : List Char) : bare (cs.filter (· != ' ')) = bare cs := by
  rw [bare, bare, List.filter_filter]
  congr 1
  refine List.filter_congr fun c _ => ?_
  by_cases hc : c = ' ' <;> simp [isSeparator, hc]

theorem lower_bare (h : IsAscii cs) : bare (lower cs) = bare cs := by
  rw [lower_ascii h]
  induction cs with
  | nil => rfl
  | cons c cs ih => exact bare_recased (recased_toLower h.head) h h.tail.map_toLower (ih h.tail)

/-! ## Capitals

Among ASCII characters a blank is its own upper case, so every character of a
text is treated alike and only the flag depends on its class. -/

theorem capitalize_cons (hc : c.toNat < 0x80) : capitalize isBlank b (c :: cs) =
    (if b then c.toUpper else c) :: capitalize isBlank (isBlank c) cs := by
  rw [capitalize, upperOf_ascii hc]
  cases hblank : isBlank c with
  | false => cases b <;> rfl
  | true => cases b <;> simp [toUpper_blank hc hblank]

theorem recased_capital (b : Bool) (hc : c.toNat < 0x80) :
    Recased c (if b then c.toUpper else c) := by
  split
  · exact recased_toUpper hc
  · exact recased_self hc

theorem capitalize_bare (h : IsAscii cs) :
    IsAscii (capitalize isBlank b cs) ∧ bare (capitalize isBlank b cs) = bare cs := by
  induction cs generalizing b with
  | nil => exact ⟨h, rfl⟩
  | cons c cs ih =>
      obtain ⟨hascii, hbare⟩ := ih (b := isBlank c) h.tail
      have hfirst := recased_capital b h.head
      rw [capitalize_cons h.head]
      exact ⟨isAscii_cons.2 ⟨hfirst.ascii, hascii⟩, bare_recased hfirst h hascii hbare⟩

theorem capitalize_capitalize (h : IsAscii cs) :
    capitalize isBlank b (capitalize isBlank b cs) = capitalize isBlank b cs := by
  induction cs generalizing b with
  | nil => rfl
  | cons c cs ih =>
      have hfirst := recased_capital b h.head
      rw [capitalize_cons h.head, capitalize_cons hfirst.ascii, hfirst.blank, ih h.tail]
      cases b with
      | false => rfl
      | true => exact congrArg (· :: capitalize isBlank (isBlank c) cs) (toUpper_toUpper h.head)

/-- A text that is capitalized as the start of a word is so in its middle as
well. -/
theorem capitalize_of_start (h : IsAscii cs) (hcaps : capitalize isBlank true cs = cs) :
    capitalize isBlank b cs = cs := by
  cases b with
  | true => exact hcaps
  | false =>
      cases cs with
      | nil => rfl
      | cons c cs =>
          rw [capitalize_cons h.head] at hcaps ⊢
          exact congrArg (c :: ·) (List.cons.inj hcaps).2

theorem capitalize_unspaced (h : IsAscii cs) (hcaps : capitalize isBlank b cs = cs) :
    capitalize isBlank b (cs.filter (· != ' ')) = cs.filter (· != ' ') := by
  induction cs generalizing b with
  | nil => rfl
  | cons c cs ih =>
      rw [capitalize_cons h.head] at hcaps
      obtain ⟨hfirst, hrest⟩ := List.cons.inj hcaps
      have hkept := ih h.tail hrest
      by_cases hc : c = ' '
      · subst hc
        exact capitalize_of_start (h.tail.filter _) hkept
      · rw [List.filter_cons_of_pos (by simpa using hc), capitalize_cons h.head, hfirst, hkept]

/-! ## Words in one -/

/-- A text without separators in which a word behind a blank begins with a
capital. -/
structure Humped (cs : List Char) : Prop where
  ascii : IsAscii cs
  joined : ∀ c ∈ cs, isSeparator c = false
  humps : capitalize isBlank false cs = cs

theorem Humped.recased (h : Humped (c :: cs)) (hd : Recased c d) : Humped (d :: cs) := by
  obtain ⟨hfirst, hrest⟩ := List.forall_mem_cons.1 h.joined
  have hhumps := h.humps
  rw [capitalize_cons h.ascii.head] at hhumps
  refine ⟨isAscii_cons.2 ⟨hd.ascii, h.ascii.tail⟩,
    List.forall_mem_cons.2 ⟨hd.separator.trans hfirst, hrest⟩, ?_⟩
  rw [capitalize_cons hd.ascii, hd.blank]
  exact congrArg (d :: ·) (List.cons.inj hhumps).2

theorem spaced_eq_self (h : ∀ c ∈ cs, isSeparator c = false) : spaced cs = cs := by
  refine (List.map_congr_left fun c hc => if_neg ?_).trans (List.map_id cs)
  rintro (rfl | rfl) <;> cases h _ hc

theorem unspaced_eq_self (h : ∀ c ∈ cs, isSeparator c = false) : cs.filter (· != ' ') = cs := by
  refine List.filter_eq_self.2 fun c hc => bne_iff_ne.2 ?_
  rintro rfl
  cases h _ hc

theorem mem_capitalize (h : IsAscii cs) (hc : c ∈ capitalize isBlank b cs) :
    ∃ d ∈ cs, c = d ∨ c = d.toUpper := by
  induction cs generalizing b with
  | nil => cases hc
  | cons e cs ih =>
      rw [capitalize_cons h.head] at hc
      rcases List.mem_cons.1 hc with hc | hc
      · refine ⟨e, List.mem_cons_self, ?_⟩
        split at hc
        · exact .inr hc
        · exact .inl hc
      · obtain ⟨d, hd, hcase⟩ := ih h.tail hc
        exact ⟨d, List.mem_cons_of_mem e hd, hcase⟩

theorem separator_of_mem_spaced (hc : c ∈ spaced cs) (hsep : isSeparator c = true) : c = ' ' := by
  obtain ⟨d, -, rfl⟩ := List.mem_map.1 hc
  by_cases hd : d = '-' ∨ d = '_'
  · exact if_pos hd
  · rw [if_neg hd] at hsep ⊢
    simpa [isSeparator, not_or.1 hd] using hsep

/-- The words of a text in one, each with a capital. -/
def together (cs : List Char) : List Char :=
  (capitalize isBlank true (spaced cs)).filter (· != ' ')

theorem together_humped (h : IsAscii cs) : Humped (together cs) := by
  have hspaced := (spaced_bare h).1
  have hcaps := (capitalize_bare (b := true) hspaced).1
  refine ⟨hcaps.filter _, fun c hc => ?_, ?_⟩
  · obtain ⟨hmem, hspace⟩ := List.mem_filter.1 hc
    obtain ⟨d, hd, hcase⟩ := mem_capitalize hspaced hmem
    refine Bool.eq_false_iff.2 fun hsep => bne_iff_ne.1 hspace ?_
    rcases hcase with rfl | rfl
    · exact separator_of_mem_spaced hd hsep
    · rw [(recased_toUpper (hspaced d hd)).separator] at hsep
      rw [separator_of_mem_spaced hd hsep]
      rfl
  · exact capitalize_of_start (hcaps.filter _)
      (capitalize_unspaced hcaps (capitalize_capitalize hspaced))

theorem together_bare (h : IsAscii cs) : bare (together cs) = bare cs := by
  rw [together, bare_unspaced, (capitalize_bare (spaced_bare h).1).2, (spaced_bare h).2]

theorem lowerFirst_cons (hc : c.toNat < 0x80) : lowerFirst (c :: cs) = c.toLower :: cs := by
  rw [lowerFirst, lower_ascii (isAscii_cons.2 ⟨hc, by simp [IsAscii]⟩)]
  rfl

theorem upperFirst_cons (hc : c.toNat < 0x80) : upperFirst (c :: cs) = c.toUpper :: cs := by
  rw [upperFirst, upperOf_ascii hc]
  rfl

theorem Humped.lowerFirst (h : Humped cs) :
    Humped (lowerFirst cs) ∧ bare (Words.lowerFirst cs) = bare cs := by
  cases cs with
  | nil => exact ⟨h, rfl⟩
  | cons c cs =>
      have hd := recased_toLower h.ascii.head
      rw [lowerFirst_cons h.ascii.head]
      exact ⟨h.recased hd, bare_recased hd h.ascii h.ascii.tail rfl⟩

theorem Humped.upperFirst (h : Humped cs) :
    Humped (upperFirst cs) ∧ bare (Words.upperFirst cs) = bare cs := by
  cases cs with
  | nil => exact ⟨h, rfl⟩
  | cons c cs =>
      have hd := recased_toUpper h.ascii.head
      rw [upperFirst_cons h.ascii.head]
      exact ⟨h.recased hd, bare_recased hd h.ascii h.ascii.tail rfl⟩

theorem camelCase_cons (c : Char) (cs : List Char) : camelCase (c :: cs) =
    if isLower c then lowerFirst (together (c :: cs)) else together (c :: cs) := rfl

theorem camelCase_humped (h : IsAscii cs) :
    Humped (camelCase cs) ∧ bare (camelCase cs) = bare cs := by
  have hall := together_humped h
  have hbare := together_bare h
  cases cs with
  | nil => exact ⟨hall, hbare⟩
  | cons c cs =>
      rw [camelCase_cons]
      split
      · exact ⟨hall.lowerFirst.1, hall.lowerFirst.2.trans hbare⟩
      · exact ⟨hall, hbare⟩

/-- Joined words are left as they are. The capital that a small first letter is
given on the way is taken back. -/
theorem Humped.camelCase_eq (h : Humped cs) : camelCase cs = cs := by
  cases cs with
  | nil => rfl
  | cons c cs =>
      have hc := h.ascii.head
      have hupper := recased_toUpper hc
      have htogether : together (c :: cs) = c.toUpper :: cs := by
        have hhumps := h.humps
        rw [capitalize_cons hc] at hhumps
        rw [together, spaced_eq_self h.joined, capitalize_cons hc, (List.cons.inj hhumps).2]
        exact unspaced_eq_self (h.recased hupper).joined
      rw [camelCase_cons, htogether, isLower_ascii hc]
      split
      · next hlower =>
          rw [lowerFirst_cons hupper.ascii, hupper.lower]
          exact congrArg (· :: cs) (ascii_all (p := fun c => c.isLower = true → c.toLower = c)
            (by decide) hc hlower)
      · next hlower =>
          exact congrArg (· :: cs) (ascii_all (p := fun c => ¬c.isLower = true → c.toUpper = c)
            (by decide) hc hlower)

theorem Humped.upperFirst_upperFirst (h : Humped cs) :
    Words.upperFirst (Words.upperFirst cs) = Words.upperFirst cs := by
  cases cs with
  | nil => rfl
  | cons c cs =>
      have hc := h.ascii.head
      rw [upperFirst_cons hc, upperFirst_cons (recased_toUpper hc).ascii, toUpper_toUpper hc]

/-! ## Humps -/

/-- A word ends behind `c`, where `cs` is what follows. -/
def isHump (c : Char) (cs : List Char) : Bool := isSmall c && cs.head?.any isCapital

theorem separateHumps_cons (c : Char) (cs : List Char) : separateHumps (c :: cs) =
    c :: ((if isHump c cs then ['_'] else []) ++ separateHumps cs) := by
  cases cs with
  | nil => simp [separateHumps, isHump]
  | cons d cs =>
      rw [separateHumps]
      cases h : isSmall c && isCapital d <;> simp [isHump, h]

theorem separateHumps_bare (h : IsAscii cs) :
    IsAscii (separateHumps cs) ∧ bare (separateHumps cs) = bare cs := by
  induction cs with
  | nil => exact ⟨h, rfl⟩
  | cons c cs ih =>
      obtain ⟨hascii, hbare⟩ := ih h.tail
      have hline : IsAscii ('_' :: separateHumps cs) := isAscii_cons.2 ⟨by decide, hascii⟩
      rw [separateHumps_cons]
      cases isHump c cs with
      | false =>
          exact ⟨isAscii_cons.2 ⟨h.head, hascii⟩, bare_recased (recased_self h.head) h hascii hbare⟩
      | true =>
          exact ⟨isAscii_cons.2 ⟨h.head, hline⟩, bare_recased (recased_self h.head) h hline
            ((bare_cons hline).trans hbare)⟩

/-- The text in small letters with a low line at each hump. -/
def flattened (cs : List Char) : List Char := (separateHumps cs).map Char.toLower

theorem flattened_cons (c : Char) (cs : List Char) : flattened (c :: cs) =
    c.toLower :: ((if isHump c cs then ['_'] else []) ++ flattened cs) := by
  rw [flattened, separateHumps_cons, List.map_cons, List.map_append]
  cases isHump c cs <;> rfl

/-- Marking the humps of joined words brings in low lines only. -/
theorem separateHumps_joined (h : ∀ c ∈ cs, isSeparator c = false) :
    ∀ c ∈ separateHumps cs, ¬(c = ' ' ∨ c = '-') := by
  induction cs with
  | nil => simp [separateHumps]
  | cons c cs ih =>
      obtain ⟨hc, hrest⟩ := List.forall_mem_cons.1 h
      have hletter : ¬(c = ' ' ∨ c = '-') := by rintro (rfl | rfl) <;> cases hc
      rw [separateHumps_cons]
      cases isHump c cs with
      | false => exact List.forall_mem_cons.2 ⟨hletter, ih hrest⟩
      | true =>
          exact List.forall_mem_cons.2 ⟨hletter, List.forall_mem_cons.2 ⟨by decide, ih hrest⟩⟩

/-- There is nothing left to replace behind the joined words. -/
theorem snakeCase_eq (h : IsAscii cs) : snakeCase cs = flattened (camelCase cs) := by
  have hhumped := (camelCase_humped h).1
  have hmarked := separateHumps_joined hhumped.joined
  have hlines : (separateHumps (camelCase cs)).map (fun c => if c = ' ' ∨ c = '-' then '_' else c) =
      separateHumps (camelCase cs) :=
    (List.map_congr_left fun c hc => if_neg (hmarked c hc)).trans (List.map_id _)
  rw [snakeCase, hlines, lower_ascii (separateHumps_bare hhumped.ascii).1]
  rfl

/-! ## Filtering twice

Between the two runs stands the text that the second one joins again. It has
the humps of the first run and no others: capitals that followed no small
letter are small now. -/

/-- A text with a capital at its start, if `b` says so, behind its blanks and
behind its humps, and small letters everywhere else. -/
def settled : (b : Bool) → List Char → List Char
  | _, [] => []
  | b, c :: cs => (if b then c.toUpper else c.toLower) :: settled (isBlank c || isHump c cs) cs

theorem recased_settled (b : Bool) (hc : c.toNat < 0x80) :
    Recased c (if b then c.toUpper else c.toLower) := by
  split
  · exact recased_toUpper hc
  · exact recased_toLower hc

theorem isSmall_notBlank (hc : c.toNat < 0x80) (h : isSmall c = true) : isBlank c = false :=
  ascii_all (p := fun c => isSmall c = true → isBlank c = false) (by decide) hc h

theorem isHump_true (h : isHump c cs = true) :
    isSmall c = true ∧ ∃ d ds, cs = d :: ds ∧ isCapital d = true := by
  obtain ⟨hc, hd⟩ := Bool.and_eq_true_iff.1 h
  cases cs with
  | nil => cases hd
  | cons d ds => exact ⟨hc, d, ds, rfl, hd⟩

theorem ne_space (hc : isSeparator c = false) : (c != ' ') = true := by
  refine bne_iff_ne.2 ?_
  rintro rfl
  cases hc

/-- Joining the words of a flattened text, but for its first character. -/
theorem capitalize_flattened (h : IsAscii cs) (hjoined : ∀ c ∈ cs, isSeparator c = false) :
    (capitalize isBlank b (spaced (flattened cs))).filter (· != ' ') = settled b cs := by
  induction cs generalizing b with
  | nil => rfl
  | cons c cs ih =>
      obtain ⟨hc, hrest⟩ := List.forall_mem_cons.1 hjoined
      have hlow := recased_toLower h.head
      have hfirst := recased_settled b h.head
      have hspaced :
          (if c.toLower = '-' ∨ c.toLower = '_' then ' ' else c.toLower) = c.toLower := by
        refine if_neg ?_
        have hsep := hlow.separator.trans hc
        rintro (heq | heq) <;> rw [heq] at hsep <;> cases hsep
      rw [flattened_cons, settled, spaced, List.map_cons, hspaced, capitalize_cons hlow.ascii,
        toUpper_toLower h.head,
        List.filter_cons_of_pos (p := (· != ' ')) (ne_space (hfirst.separator.trans hc)),
        hlow.blank]
      congr 1
      cases hhump : isHump c cs with
      | false => rw [Bool.or_false]; exact ih h.tail hrest
      | true =>
          -- The low line is a space again, and what follows begins a word.
          rw [Bool.or_true, isSmall_notBlank h.head (isHump_true hhump).1]
          exact ih h.tail hrest

theorem camelCase_flattened (h : Humped cs) : camelCase (flattened cs) = settled false cs := by
  have htogether : together (flattened cs) = settled true cs :=
    capitalize_flattened h.ascii h.joined
  cases cs with
  | nil => rfl
  | cons c cs =>
      have hc := h.ascii.head
      have hlow := recased_toLower hc
      rw [flattened_cons] at htogether ⊢
      rw [camelCase_cons, htogether, settled, settled, isLower_ascii hlow.ascii]
      split
      · rw [if_pos rfl, lowerFirst_cons (recased_toUpper hc).ascii, (recased_toUpper hc).lower]
        rfl
      · next hlower =>
          have hfixed : c.toUpper = c.toLower :=
            ascii_all (p := fun c => ¬c.toLower.isLower = true → c.toUpper = c.toLower) (by decide)
              hc hlower
          rw [if_pos rfl, hfixed]
          rfl

theorem isCapital_toUpper (hc : c.toNat < 0x80) (h : isCapital c = true) : c.toUpper = c :=
  ascii_all (p := fun c => isCapital c = true → c.toUpper = c) (by decide) hc h

/-- A text that is capitalized where words begin has its humps where the settled
text has them. -/
theorem isHump_settled (h : IsAscii (c :: cs)) (hcaps : b = true → c.toUpper = c) :
    isHump (if b then c.toUpper else c.toLower) (settled (isBlank c || isHump c cs) cs) =
      isHump c cs := by
  have hc := h.head
  cases hhump : isHump c cs with
  | true =>
      obtain ⟨hsmall, d, ds, rfl, hd⟩ := isHump_true hhump
      have hlow : c.toLower = c := ascii_all (p := fun c => isSmall c = true → c.toLower = c)
        (by decide) hc hsmall
      have hup : c.toUpper ≠ c := ascii_all (p := fun c => isSmall c = true → c.toUpper ≠ c)
        (by decide) hc hsmall
      rw [if_neg fun hb => hup (hcaps hb), hlow, Bool.or_true, settled, if_pos rfl,
        isCapital_toUpper h.tail.head hd, isHump, hsmall]
      exact hd
  | false =>
      cases hblank : isBlank c with
      | true =>
          have hfirst := recased_settled b hc
          refine Bool.eq_false_iff.2 fun hhump => ?_
          have := isSmall_notBlank hfirst.ascii (isHump_true hhump).1
          rw [hfirst.blank, hblank] at this
          cases this
      | false =>
          cases cs with
          | nil => exact Bool.and_false _
          | cons d ds =>
              have hlow : isCapital d.toLower = false :=
                ascii_all (p := fun d => isCapital d.toLower = false) (by decide) h.tail.head
              rw [Bool.or_false, settled, isHump, if_neg Bool.false_ne_true]
              exact (congrArg _ hlow).trans (Bool.and_false _)

theorem flattened_settled (h : IsAscii cs) (hcaps : capitalize isBlank b cs = cs) :
    flattened (settled b cs) = flattened cs := by
  induction cs generalizing b with
  | nil => rfl
  | cons c cs ih =>
      have hc := h.head
      rw [capitalize_cons hc] at hcaps
      obtain ⟨hfirst, hrest⟩ := List.cons.inj hcaps
      have hnext : capitalize isBlank (isBlank c || isHump c cs) cs = cs := by
        cases hhump : isHump c cs with
        | false => rw [Bool.or_false]; exact hrest
        | true =>
            obtain ⟨-, d, ds, rfl, hd⟩ := isHump_true hhump
            rw [capitalize_cons h.tail.head] at hrest ⊢
            rw [Bool.or_true, if_pos rfl, isCapital_toUpper h.tail.head hd, (List.cons.inj hrest).2]
      rw [settled, flattened_cons, flattened_cons, ih h.tail hnext, (recased_settled b hc).lower,
        isHump_settled h fun hb => by rwa [if_pos hb] at hfirst]

theorem snakeCase_snakeCase (h : IsAscii cs) : snakeCase (snakeCase cs) = snakeCase cs := by
  have hhumped := (camelCase_humped h).1
  have hascii : IsAscii (flattened (camelCase cs)) :=
    (separateHumps_bare hhumped.ascii).1.map_toLower
  rw [snakeCase_eq h, snakeCase_eq hascii, camelCase_flattened hhumped,
    flattened_settled hhumped.ascii hhumped.humps]

theorem snakeCase_bare (h : IsAscii cs) : bare (snakeCase cs) = bare cs := by
  obtain ⟨hhumped, hbare⟩ := camelCase_humped h
  obtain ⟨hascii, hseparated⟩ := separateHumps_bare hhumped.ascii
  rw [snakeCase_eq h, flattened, ← lower_ascii hascii, lower_bare hascii, hseparated, hbare]

theorem spaced_hyphens (cs : List Char) :
    spaced (cs.map fun c => if c = '_' then '-' else c) = spaced cs := by
  rw [spaced, List.map_map]
  refine List.map_congr_left fun c _ => ?_
  by_cases hc : c = '_' <;> simp [hc]

/-- Joining does not tell low lines from hyphens. -/
theorem camelCase_hyphens (cs : List Char) :
    camelCase (cs.map fun c => if c = '_' then '-' else c) = camelCase cs := by
  cases cs with
  | nil => rfl
  | cons c cs =>
      have htogether : together ((c :: cs).map fun c => if c = '_' then '-' else c) =
          together (c :: cs) := by rw [together, spaced_hyphens, together]
      have hlower : isLower (if c = '_' then '-' else c) = isLower c := by
        split
        · next hc => rw [hc]; decide
        · rfl
      rw [List.map_cons] at htogether ⊢
      rw [camelCase_cons, camelCase_cons, htogether, hlower]

theorem kebabCase_kebabCase (h : IsAscii cs) : kebabCase (kebabCase cs) = kebabCase cs := by
  have hsnake : snakeCase (kebabCase cs) = snakeCase (snakeCase cs) := by
    rw [snakeCase, kebabCase, camelCase_hyphens]
    rfl
  rw [kebabCase, hsnake, snakeCase_snakeCase h, kebabCase]

theorem kebabCase_bare (h : IsAscii cs) : bare (kebabCase cs) = bare cs := by
  have hascii : IsAscii (snakeCase cs) := by
    rw [snakeCase_eq h]
    exact (separateHumps_bare (camelCase_humped h).1.ascii).1.map_toLower
  rw [kebabCase, (bare_separators hascii fun c => ?_).2, snakeCase_bare h]
  split
  · next hc => exact .inr (by subst hc; decide)
  · exact .inl rfl

end

/-- A filter on texts that changes nothing but separators and case, and nothing
at all the second time. -/
structure Recasing (f : List Char → List Char) : Prop where
  bare : ∀ {cs}, IsAscii cs → bare (f cs) = bare cs
  twice : ∀ {cs}, IsAscii cs → f (f cs) = f cs

theorem camelCase_recasing : Recasing camelCase where
  bare h := (camelCase_humped h).2
  twice h := (camelCase_humped h).1.camelCase_eq

theorem pascalCase_recasing : Recasing pascalCase where
  bare h := (camelCase_humped h).1.upperFirst.2.trans (camelCase_humped h).2
  twice h := by
    have hhumped := (camelCase_humped h).1
    rw [pascalCase, pascalCase, hhumped.upperFirst.1.camelCase_eq, hhumped.upperFirst_upperFirst]

theorem snakeCase_recasing : Recasing snakeCase := ⟨snakeCase_bare, snakeCase_snakeCase⟩

theorem kebabCase_recasing : Recasing kebabCase := ⟨kebabCase_bare, kebabCase_kebabCase⟩

/-- Each filter that joins or separates words gives an ASCII text back up to
separators and case, and leaves its own result alone. -/
theorem words_recased (s : String) (h : IsAscii s.toList) :
    ∀ name ∈ ["camelCase", "pascalCase", "snakeCase", "kebabCase"],
      ∃ t : String, Registry.standard.apply name (.str s) [] = .ok (.str t) ∧
        bare t.toList = bare s.toList ∧
        Registry.standard.apply name (.str t) [] = .ok (.str t) := by
  have hgives : ∀ {name : String} {f : List Char → List Char},
      Registry.standard.get name = .ok ⟨some name, Standard.onText f⟩ → Recasing f →
      ∃ t : String, Registry.standard.apply name (.str s) [] = .ok (.str t) ∧
        bare t.toList = bare s.toList ∧
        Registry.standard.apply name (.str t) [] = .ok (.str t) := by
    intro name f hname hf
    refine ⟨_, Standard.apply_onText hname s, ?_, ?_⟩
    · rw [String.toList_ofList]
      exact hf.bare h
    · rw [Standard.apply_onText hname, String.toList_ofList, hf.twice h]
  simp only [List.forall_mem_cons]
  exact ⟨hgives rfl camelCase_recasing, hgives rfl pascalCase_recasing,
    hgives rfl snakeCase_recasing, hgives rfl kebabCase_recasing, by simp⟩

theorem words_recased_mixed : IsAscii "my-URL is\t2_cool".toList ∧
    ∀ name ∈ ["camelCase", "pascalCase", "snakeCase", "kebabCase"],
      ∃ t : String, Registry.standard.apply name (.str "my-URL is\t2_cool") [] = .ok (.str t) ∧
        bare t.toList = bare "my-URL is\t2_cool".toList ∧
        Registry.standard.apply name (.str t) [] = .ok (.str t) :=
  ⟨by decide, words_recased _ (by decide)⟩

end Stencil.Words
