import Stencil.Filters.Standard
import Stencil.Proofs.Calendar.Directive
import Stencil.Proofs.Calendar.LetterPattern
import Stencil.Proofs.Filters.Inverses

/-!
# What a date in a pattern becomes

A pattern is meant to be its groups of letters and text between them that is
copied. The filter turns the groups into directives and has the whole written by
directives, so that text is read a second time: a percent sign of the pattern
meets what stands behind it, and a null character ends the pattern.

`verdict` says for the pieces of a pattern what comes of that. A percent sign at
the end or in front of a character without a meaning is copied after all; one in
front of a letter with a meaning, of a group or of a copied percent sign is not.
It is left open for a percent sign in front of what asks for another style, where
the width decides, and for two of them in a row in front of more that is read
again.
-/

namespace Stencil.Dates

open Directive LetterPattern

/-- Whether the plain pieces of a pattern are copied. -/
inductive Verdict
  | kept | changed | unknown
deriving DecidableEq

/-- Whether a percent sign is copied, by what stands behind it. -/
def behindPercent : List Piece → Verdict
  | [] => .kept
  | .part _ :: _ => .changed
  | .plain c :: _ =>
      if c ∈ styling then .unknown else if c = 'f' ∨ c ∈ letters then .changed else .kept

/-- Whether the plain pieces are copied when directives are written. -/
def verdict : List Piece → Verdict
  | [] => .kept
  | .part _ :: ps => verdict ps
  -- One sign is written for two, which shows if the rest is copied.
  | .plain '%' :: .plain '%' :: ps => if verdict ps = .kept then .changed else .unknown
  | .plain c :: ps =>
      if c = '\x00' then .changed
      else if c = '%' ∧ behindPercent ps ≠ .kept then behindPercent ps
      else verdict ps

/-- The pattern with the parts of a day for its groups, and all else copied. -/
def filledIn (d : Date) (ps : List Piece) : List Char := ps.flatMap (Piece.text (field d))

section

variable {d : Date} {c letter : Char} {cs : List Char} {ps : List Piece} {most : Nat}

/-- Percent signs and null characters are all that goes wrong. -/
theorem verdict_kept (hpercent : .plain '%' ∉ ps) (hnull : .plain '\x00' ∉ ps) :
    verdict ps = .kept := by
  fun_induction verdict ps with
  | case1 => rfl
  | case2 letter ps ih =>
      exact ih (List.not_mem_of_not_mem_cons hpercent) (List.not_mem_of_not_mem_cons hnull)
  | case3 | case4 => exact absurd List.mem_cons_self hpercent
  | case5 => exact absurd List.mem_cons_self hnull
  | case6 c ps hpair hchar hbehind =>
      rw [hbehind.1] at hpercent
      exact absurd List.mem_cons_self hpercent
  | case7 c ps hpair hchar hbehind ih =>
      exact ih (List.not_mem_of_not_mem_cons hpercent) (List.not_mem_of_not_mem_cons hnull)

/-! ## The format of a pattern -/

/-- A format with nothing put in for the zone, and no microseconds. -/
def put : List Char → List Char
  | '%' :: c :: cs =>
      if c = 'z' ∨ c = 'Z' then put cs
      else if c = 'f' then "000000".toList ++ put cs
      else '%' :: c :: put cs
  | c :: cs => c :: put cs
  | [] => []

theorem putIn_midnight (d : Date) (cs : List Char) : putIn (midnight d) cs = .ok (put cs) := by
  have hoffset : offsetText (midnight d) = .ok [] := rfl
  have hname : zoneText (midnight d) = [] := rfl
  have hmicro : (Date.padded 6 (midnight d).micro).toList = "000000".toList := by
    change (Date.padded 6 0).toList = _
    decide
  fun_induction put cs with
  | case1 c cs hzone ih =>
      rw [putIn, ih, hoffset, hname]
      change (if c = 'z' then Except.ok (put cs) else if c = 'Z' then Except.ok (put cs) else _) = _
      rcases hzone with rfl | rfl
      · exact if_pos rfl
      · exact (if_neg (by decide)).trans (if_pos rfl)
  | case2 cs _ ih =>
      rw [putIn, ih, hmicro]
      rfl
  | case3 c cs hzone hmicro ih =>
      obtain ⟨hz, hZ⟩ := not_or.1 hzone
      rw [putIn, ih]
      simp only [if_neg hz, if_neg hZ, if_neg hmicro]
      rfl
  | case4 c cs h ih =>
      rw [putIn, ih]
      · rfl
      · exact h
  | case5 => rfl

theorem put_letter (hzone : c ≠ 'z' ∧ c ≠ 'Z') (hmicro : c ≠ 'f') :
    put ('%' :: c :: cs) = '%' :: c :: put cs := by
  rw [put, if_neg (not_or.2 hzone), if_neg hmicro]

theorem put_plain (h : c ≠ '%') : put (c :: cs) = c :: put cs := by
  rw [put]
  rintro c cs rfl
  exact absurd rfl h

/-- The directives of a pattern up to its end. -/
def cut (ps : List Piece) : List Char :=
  (ps.flatMap (Piece.text fun letter => ['%', letter])).takeWhile (· != '\x00')

theorem cut_plain (h : c ≠ '\x00') : cut (.plain c :: ps) = c :: cut ps := by
  simp [cut, Piece.text, h]

theorem cut_part (h : letter ≠ '\x00') : cut (.part letter :: ps) = '%' :: letter :: cut ps := by
  simp [cut, Piece.text, h]

/-- The format that a pattern is written by. -/
def formatOf (ps : List Piece) : List Char := put (cut ps)

theorem formatOf_plain (hpercent : c ≠ '%') (hnull : c ≠ '\x00') :
    formatOf (.plain c :: ps) = c :: formatOf ps := by
  rw [formatOf, cut_plain hnull, put_plain hpercent, formatOf]

theorem formatOf_zone (h : letter = 'z' ∨ letter = 'Z') :
    formatOf (.part letter :: ps) = formatOf ps := by
  rcases h with rfl | rfl <;> rfl

theorem formatOf_part (h : letter ∈ partLetters) :
    formatOf (.part letter :: ps) = '%' :: letter :: formatOf ps := by
  have hletters : ∀ letter ∈ partLetters, (letter ≠ 'z' ∧ letter ≠ 'Z') ∧ letter ≠ 'f' ∧
      letter ≠ '\x00' := by decide
  obtain ⟨hzone, hmicro, hnull⟩ := hletters letter h
  rw [formatOf, cut_part hnull, put_letter hzone hmicro, formatOf]

theorem formatOf_percent_part (h : letter ∈ groups.map (·.2)) :
    formatOf (.plain '%' :: .part letter :: ps) = '%' :: '%' :: letter :: formatOf ps := by
  have hletters : ∀ letter ∈ groups.map (·.2), letter ≠ '%' ∧ letter ≠ '\x00' := by decide
  obtain ⟨hpercent, hnull⟩ := hletters letter h
  rw [formatOf, cut_plain (by decide), cut_part hnull, put_letter (by decide) (by decide),
    put_plain hpercent, formatOf]

theorem formatOf_percent_plain (hzone : c ≠ 'z' ∧ c ≠ 'Z') (hmicro : c ≠ 'f') (hnull : c ≠ '\x00') :
    formatOf (.plain '%' :: .plain c :: ps) = '%' :: c :: formatOf ps := by
  rw [formatOf, cut_plain (by decide), cut_plain hnull, put_letter hzone hmicro, formatOf]

/-! ## What the format writes -/

/-- What is written of a day for the pieces of a pattern. -/
def result (d : Date) (most : Nat) (ps : List Piece) : List Char :=
  writeFrom (midnight d) most 0 (formatOf ps)

theorem group_letters : ∀ letter ∈ groups.map (·.2),
    (letter = 'z' ∨ letter = 'Z') ∨ letter ∈ partLetters := by decide

theorem result_plain (hpercent : c ≠ '%') (hnull : c ≠ '\x00') :
    result d most (.plain c :: ps) = c :: result d most ps := by
  rw [result, formatOf_plain hpercent hnull, writeFrom_plain hpercent, result]

theorem result_part (h : letter ∈ groups.map (·.2)) :
    result d most (.part letter :: ps) = field d letter ++ result d most ps := by
  rcases group_letters letter h with hzone | hpart
  · rw [result, formatOf_zone hzone]
    rcases hzone with rfl | rfl <;> rfl
  · have hstyling : ∀ letter ∈ partLetters, letter ∉ styling := by decide
    rw [result, formatOf_part hpart, writeFrom_letter (hstyling letter hpart),
      plainText_field d letter hpart, result]

theorem result_percent_part (h : letter ∈ groups.map (·.2)) :
    result d most (.plain '%' :: .part letter :: ps) = '%' :: letter :: result d most ps := by
  have hletters : ∀ letter ∈ groups.map (·.2), letter ≠ '%' := by decide
  rw [result, formatOf_percent_part h, writeFrom_letter (by decide),
    writeFrom_plain (hletters letter h)]
  rfl

theorem result_percent_percent :
    result d most (.plain '%' :: .plain '%' :: ps) = '%' :: result d most ps := by
  rw [result, formatOf_percent_plain (by decide) (by decide) (by decide),
    writeFrom_letter (by decide)]
  rfl

/-- A character in front of which a percent sign is copied. -/
structure Idle (c : Char) : Prop where
  percent : c ≠ '%'
  zone : c ≠ 'z' ∧ c ≠ 'Z'
  micro : c ≠ 'f'
  styling : c ∉ styling
  letter : c ∉ letters

theorem formatOf_percent_idle (h : Idle c) :
    formatOf (.plain '%' :: .plain c :: ps) = '%' :: formatOf (.plain c :: ps) := by
  by_cases hnull : c = '\x00'
  · subst hnull
    rfl
  · rw [formatOf_percent_plain h.zone h.micro hnull, formatOf_plain h.percent hnull]

theorem result_percent_idle (h : Idle c) :
    result d most (.plain '%' :: .plain c :: ps) = '%' :: result d most (.plain c :: ps) := by
  by_cases hnull : c = '\x00'
  · subst hnull
    rfl
  · have hsign : c ∉ ['%', 'z', 'Z'] := by simp [h.percent, h.zone]
    rw [result, formatOf_percent_plain h.zone h.micro hnull, writeFrom_letter h.styling,
      plainText_idle h.letter hsign, result_plain h.percent hnull]
    rfl

/-- A percent sign is gone where a letter with a meaning is behind it. -/
theorem result_percent_letter (hmonth : d.month ≤ 12) (h : c = 'f' ∨ c ∈ letters)
    (hstyling : c ∉ styling) :
    (result d most (.plain '%' :: .plain c :: ps)).head? ≠ some '%' := by
  rcases h with rfl | h
  · exact fun hhead => absurd (Option.some.inj hhead) (by decide)
  · have hletters : ∀ c ∈ letters, (c ≠ 'z' ∧ c ≠ 'Z') ∧ c ≠ 'f' ∧ c ≠ '\x00' := by decide
    obtain ⟨hzone, hmicro, hnull⟩ := hletters c h
    have htext := plainText_visible (m := midnight d) hmonth h
    rw [result, formatOf_percent_plain hzone hmicro hnull, writeFrom_letter hstyling,
      List.head?_append_of_ne_nil _ htext.ne_nil]
    exact fun hhead => htext.notMem (List.mem_of_mem_head? hhead)

/-! ## Kept and changed -/

theorem plain_zone (h : (Piece.plain c).Possible) : c ≠ 'z' ∧ c ≠ 'Z' :=
  ⟨fun heq => h (heq ▸ by decide), fun heq => h (heq ▸ by decide)⟩

theorem idle_of_kept (hpossible : ∀ p ∈ ps, p.Possible) (hpair : ∀ qs, ps ≠ .plain '%' :: qs)
    (h : behindPercent ps = .kept) : ps = [] ∨ ∃ c qs, ps = .plain c :: qs ∧ Idle c := by
  cases ps with
  | nil => exact .inl rfl
  | cons p ps =>
      cases p with
      | part letter => cases h
      | plain c =>
          have hpercent : c ≠ '%' := fun heq => hpair ps (heq ▸ rfl)
          have hzone := plain_zone (hpossible _ List.mem_cons_self)
          simp only [behindPercent] at h
          split at h
          · cases h
          · next hstyling =>
            split at h
            · cases h
            · next hletter =>
              obtain ⟨hmicro, hletter⟩ := not_or.1 hletter
              exact .inr ⟨c, ps, rfl, hpercent, hzone, hmicro, hstyling, hletter⟩

/-- A plain character that does not end the pattern is copied, but for a percent
sign that takes part in a directive. -/
theorem copied (hpossible : ∀ p ∈ ps, p.Possible) (hnull : c ≠ '\x00')
    (hpair : ∀ qs, ps = .plain '%' :: qs → c ≠ '%')
    (hbehind : ¬(c = '%' ∧ behindPercent ps ≠ .kept)) :
    formatOf (.plain c :: ps) = c :: formatOf ps ∧
      ∀ d most, result d most (.plain c :: ps) = c :: result d most ps := by
  by_cases hpercent : c = '%'
  · subst hpercent
    have hkept : behindPercent ps = .kept := by simpa using hbehind
    have hpair : ∀ qs, ps ≠ .plain '%' :: qs := fun qs heq => hpair qs heq rfl
    rcases idle_of_kept hpossible hpair hkept with rfl | ⟨c, qs, rfl, hidle⟩
    · exact ⟨rfl, fun _ _ => rfl⟩
    · exact ⟨formatOf_percent_idle hidle, fun _ _ => result_percent_idle hidle⟩
  · exact ⟨formatOf_plain hpercent hnull, fun _ _ => result_plain hpercent hnull⟩

theorem result_of_kept (hpossible : ∀ p ∈ ps, p.Possible) (h : verdict ps = .kept) :
    result d most ps = filledIn d ps := by
  fun_induction verdict ps with
  | case1 => rfl
  | case2 letter ps ih =>
      obtain ⟨hletter, hpossible⟩ := List.forall_mem_cons.1 hpossible
      rw [result_part hletter, ih hpossible h]
      rfl
  | case3 | case4 | case5 => cases h
  | case6 c ps hpair hnull hbehind => exact absurd h hbehind.2
  | case7 c ps hpair hnull hbehind ih =>
      obtain ⟨-, hpossible⟩ := List.forall_mem_cons.1 hpossible
      rw [(copied hpossible hnull hpair hbehind).2, ih hpossible h]
      rfl

theorem filledIn_noZone (hd : Date.make? d.year d.month d.day = some d)
    (hpossible : ∀ p ∈ ps, p.Possible) (hc : c = 'z' ∨ c = 'Z') : c ∉ filledIn d ps := by
  intro hmem
  obtain ⟨p, hp, hmem⟩ := List.mem_flatMap.1 hmem
  have hp := hpossible p hp
  cases p with
  | plain a =>
      obtain rfl := List.mem_singleton.1 hmem
      exact hc.elim (plain_zone hp).1 (plain_zone hp).2
  | part letter =>
      rcases group_letters letter hp with hzone | hpart
      · rcases hzone with rfl | rfl <;> cases hmem
      · have hfield := (partText_field hd letter hpart).noZone
        rcases hc with rfl | rfl
        · exact hfield.1 hmem
        · exact hfield.2 hmem

/-- A percent sign in front of a letter with a meaning, or of a group, is gone or
has taken the letter of the group. -/
theorem result_changed (hd : Date.make? d.year d.month d.day = some d)
    (hpossible : ∀ p ∈ ps, p.Possible) (h : behindPercent ps = .changed) :
    result d most (.plain '%' :: ps) ≠ '%' :: filledIn d ps := by
  cases ps with
  | nil => cases h
  | cons p ps =>
      obtain ⟨hp, htail⟩ := List.forall_mem_cons.1 hpossible
      cases p with
      | part letter =>
          rw [result_percent_part hp]
          intro heq
          have heq : letter :: result d most ps = field d letter ++ filledIn d ps :=
            (List.cons.inj heq).2
          rcases group_letters letter hp with hzone | hpart
          · have hempty : field d letter = [] := by rcases hzone with rfl | rfl <;> rfl
            rw [hempty, List.nil_append] at heq
            exact filledIn_noZone hd htail hzone (by rw [← heq]; exact List.mem_cons_self)
          · have htext := partText_field hd letter hpart
            have hhead := congrArg List.head? heq
            rw [List.head?_append_of_ne_nil _ htext.ne_nil] at hhead
            exact htext.head hhead.symm
      | plain c =>
          simp only [behindPercent] at h
          split at h
          · cases h
          · next hstyling =>
            split at h
            · next hletter =>
              intro heq
              exact result_percent_letter (Date.inCalendar hd).2.2.1 hletter hstyling
                (congrArg List.head? heq)
            · cases h

theorem result_ne_of_changed (hd : Date.make? d.year d.month d.day = some d)
    (hpossible : ∀ p ∈ ps, p.Possible) (h : verdict ps = .changed) :
    result d most ps ≠ filledIn d ps := by
  fun_induction verdict ps with
  | case1 => cases h
  | case2 letter ps ih =>
      obtain ⟨hletter, hpossible⟩ := List.forall_mem_cons.1 hpossible
      rw [result_part hletter]
      exact fun heq => ih hpossible h (List.append_cancel_left heq)
  | case3 ps hkept ih =>
      obtain ⟨-, hpossible⟩ := List.forall_mem_cons.1 (List.forall_mem_cons.1 hpossible).2
      rw [result_percent_percent, result_of_kept hpossible hkept]
      intro heq
      have hlength := congrArg List.length heq
      simp [filledIn, Piece.text] at hlength
  | case4 => cases h
  | case5 ps => exact (List.cons_ne_nil _ _).symm
  | case6 c ps hpair hnull hbehind =>
      have htail := (List.forall_mem_cons.1 hpossible).2
      obtain ⟨rfl, -⟩ := hbehind
      exact result_changed hd htail h
  | case7 c ps hpair hnull hbehind ih =>
      obtain ⟨-, hpossible⟩ := List.forall_mem_cons.1 hpossible
      rw [(copied hpossible hnull hpair hbehind).2]
      exact fun heq => ih hpossible h (List.cons.inj heq).2

theorem filledIn_ne_nil_of_changed (h : verdict ps = .changed) : filledIn d ps ≠ [] := by
  fun_induction verdict ps with
  | case1 => cases h
  | case2 letter ps ih => exact List.append_ne_nil_of_right_ne_nil _ (ih h)
  | _ => exact List.cons_ne_nil _ _

/-! ## Room -/

/-- A part of a day is at most nine characters, and its directive two. -/
theorem length_filledIn (hd : Date.make? d.year d.month d.day = some d)
    (hpossible : ∀ p ∈ ps, p.Possible) (h : verdict ps = .kept) :
    (filledIn d ps).length ≤ 9 * (formatOf ps).length := by
  fun_induction verdict ps with
  | case1 => exact Nat.zero_le _
  | case2 letter ps ih =>
      obtain ⟨hletter, hpossible⟩ := List.forall_mem_cons.1 hpossible
      have ih := ih hpossible h
      have happend : filledIn d (.part letter :: ps) = field d letter ++ filledIn d ps := rfl
      rw [happend, List.length_append]
      rcases group_letters letter hletter with hzone | hpart
      · have hempty : field d letter = [] := by rcases hzone with rfl | rfl <;> rfl
        rw [formatOf_zone hzone, hempty]
        simpa using ih
      · have hlength := (partText_field hd letter hpart).length
        rw [formatOf_part hpart, List.length_cons, List.length_cons]
        omega
  | case3 | case4 | case5 => cases h
  | case6 c ps hpair hnull hbehind => exact absurd h hbehind.2
  | case7 c ps hpair hnull hbehind ih =>
      obtain ⟨-, hpossible⟩ := List.forall_mem_cons.1 hpossible
      have ih := ih hpossible h
      have hcons : filledIn d (.plain c :: ps) = c :: filledIn d ps := rfl
      have hformat := (copied hpossible hnull hpair hbehind).1
      rw [hcons, hformat, List.length_cons, List.length_cons]
      omega

/-- A loop that doubles until it reaches a number reaches it. The one behind
`Nat.nextPowerOfTwo` has no name outside of its library. -/
theorem le_doubled {n : Nat} {f : (power : Nat) → power > 0 → Nat}
    (hf : ∀ power h, f power h =
      if power < n then f (power * 2) (Nat.mul_pos h Nat.two_pos) else power)
    (power : Nat) (h : power > 0) : n ≤ f power h := by
  induction hleft : n - power using Nat.strongRecOn generalizing power with
  | ind left ih =>
      rw [hf]
      split
      · exact ih (n - power * 2) (by omega) (power * 2) (by omega) rfl
      · omega

theorem le_nextPowerOfTwo (n : Nat) : n ≤ n.nextPowerOfTwo := by
  unfold Nat.nextPowerOfTwo
  refine le_doubled (fun power h => ?_) 1 Nat.one_pos
  with_unfolding_all
    exact WellFounded.Nat.fix_eq (motive := fun _ => Nat)
      (fun x : PSigma fun power : Nat => power > 0 => n - x.1)
      (fun x again =>
        if h : x.1 < n then
          again ⟨x.1 * 2, Nat.mul_pos x.2 Nat.two_pos⟩
            (show n - x.1 * 2 < n - x.1 by have := x.2; omega)
        else x.1) ⟨power, h⟩

/-- The room for a text that is written by the format of a pattern. -/
def room (ps : List Piece) : Nat := max 1024 (256 * (formatOf ps).length).nextPowerOfTwo

theorem length_lt_room (hd : Date.make? d.year d.month d.day = some d)
    (hpossible : ∀ p ∈ ps, p.Possible) (h : verdict ps = .kept) :
    (filledIn d ps).length < room ps := by
  have hlength := length_filledIn hd hpossible h
  have hpower := le_nextPowerOfTwo (256 * (formatOf ps).length)
  rw [room]
  omega

/-! ## The filter -/

theorem format_directives (d : Date) (cs : List Char) :
    Directive.format (midnight d) (directives cs) =
      .ok (if (result d (room (pieces cs)) (pieces cs)).length < room (pieces cs) then
        result d (room (pieces cs)) (pieces cs) else []) := by
  have hcut : (directives cs).takeWhile (· != '\x00') = cut (pieces cs) := by
    rw [directives, directivesFrom_eq]
    rfl
  rw [Directive.format, hcut, putIn_midnight]
  rfl

theorem formatDate_toText (hd : Date.make? d.year d.month d.day = some d) (p : String)
    {t : List Char} (h : Directive.format (midnight d) (directives p.toList) = .ok t) :
    Registry.standard.apply "formatDate" (.str d.toText) [.str p] =
      .ok (.str (String.ofList t)) := by
  have hread := FreeForm.read?_toText hd reference
  refine Standard.apply_of_get
    (f := ⟨some "formatDate", Standard.withOptional (.str "yyyy-MM-dd") formatDate⟩) rfl ?_
  change formatDate (.str d.toText) (.str p) = _
  have hday : (Value.str d.toText).renderChars = .ok d.toText.toList := rfl
  have hpattern : (Value.str p).renderChars = .ok p.toList := rfl
  rw [formatDate, hday, ok_bind, hread, hpattern]
  change (Directive.format (midnight d) (directives p.toList)).map Value.ofChars = _
  rw [h]
  rfl

/-- A date in a pattern is always some text. Where the verdict is `kept`, as for
every pattern without percent signs and null characters, that is the pattern with
the parts of the day for its groups and all else copied. Where the verdict is
`changed`, it is not. -/
theorem formatDate_filled (hd : Date.make? d.year d.month d.day = some d) (pattern : String) :
    let ps := pieces pattern.toList
    ('%' ∉ pattern.toList → '\x00' ∉ pattern.toList → verdict ps = .kept) ∧
      ∃ t : String,
        Registry.standard.apply "formatDate" (.str d.toText) [.str pattern] = .ok (.str t) ∧
        (verdict ps = .kept → t.toList = filledIn d ps) ∧
        (verdict ps = .changed → t.toList ≠ filledIn d ps) := by
  intro ps
  have hpossible : ∀ p ∈ ps, p.Possible := pieces_possible pattern.toList
  constructor
  · exact fun hpercent hnull =>
      verdict_kept (fun h => hpercent (mem_of_plain h)) fun h => hnull (mem_of_plain h)
  · have happly := formatDate_toText hd pattern (format_directives d pattern.toList)
    refine ⟨_, happly, fun h => ?_, fun h => ?_⟩
    · rw [String.toList_ofList, if_pos]
      · exact result_of_kept hpossible h
      · rw [result_of_kept hpossible h]
        exact length_lt_room hd hpossible h
    · rw [String.toList_ofList]
      split
      · exact result_ne_of_changed hd hpossible h
      · exact (filledIn_ne_nil_of_changed h).symm

end

theorem formatDate_filled_monday :
    Date.make? 2025 12 1 = some ⟨2025, 12, 1⟩ ∧
      Registry.standard.apply "formatDate" (.str "2025-12-01") [.str "EEEE, dd MMM yyyy: 50%"] =
        .ok (.str "Monday, 01 Dec 2025: 50%") := by
  have hd : Date.make? 2025 12 1 = some ⟨2025, 12, 1⟩ := by decide
  obtain ⟨-, t, happly, hkept, -⟩ :=
    formatDate_filled (d := ⟨2025, 12, 1⟩) hd "EEEE, dd MMM yyyy: 50%"
  have htext : t = "Monday, 01 Dec 2025: 50%" :=
    String.toList_inj.1 ((hkept (by decide)).trans (by decide))
  rw [htext] at happly
  exact ⟨hd, happly⟩

/-- A percent sign in front of a letter and what stands behind a null character
are not copied. -/
theorem formatDate_not_copied :
    filledIn ⟨2025, 12, 1⟩ (pieces "100%d".toList) = "100%d".toList ∧
      Registry.standard.apply "formatDate" (.str "2025-12-01") [.str "100%d"] =
        .ok (.str "10001") ∧
      filledIn ⟨2025, 12, 1⟩ (pieces "yyyy\x00MM".toList) = "2025\x0012".toList ∧
      Registry.standard.apply "formatDate" (.str "2025-12-01") [.str "yyyy\x00MM"] =
        .ok (.str "2025") := by
  have hd : Date.make? 2025 12 1 = some ⟨2025, 12, 1⟩ := by decide
  have hwritten : ∀ p t : String, t.toList.length < 1024 →
      (∀ most, result ⟨2025, 12, 1⟩ most (pieces p.toList) = t.toList) →
      Registry.standard.apply "formatDate" (.str "2025-12-01") [.str p] = .ok (.str t) := by
    intro p t hlength ht
    have hroom : t.toList.length < room (pieces p.toList) := hlength.trans_le (Nat.le_max_left _ _)
    have hformat := format_directives ⟨2025, 12, 1⟩ p.toList
    rw [ht, if_pos hroom] at hformat
    exact (formatDate_toText (d := ⟨2025, 12, 1⟩) hd p hformat).trans (by rw [String.ofList_toList])
  exact ⟨by decide, hwritten _ _ (by decide) fun _ => rfl, by decide,
    hwritten _ _ (by decide) fun _ => rfl⟩

end Stencil.Dates
