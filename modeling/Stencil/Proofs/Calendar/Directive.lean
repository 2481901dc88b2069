import Stencil.Calendar.Directive
import Stencil.Proofs.Calendar.IsoDate

/-!
# What directives write

A percent sign and a letter, with nothing between the two, is the whole of a
directive. Which letters are directives is a list, and each of them writes some
text in which there is no percent sign; so a directive is told from a percent
sign that is copied by the first character it writes.

A letter that is none of them writes itself, and so does a percent sign in front
of it. Both are said for every moment, and the parts of a day for midnight of
that day, where no zone is known.
-/

namespace Stencil.Directive

open Text

/-- A day as it is read from a text that tells nothing else. -/
def midnight (d : Date) : Moment := ⟨d, 0, 0, 0, 0, none⟩

/-- The part of a day that a directive stands for. -/
def field (d : Date) : (letter : Char) → List Char
  | 'Y' => (Date.padded 1 d.year).toList
  | 'y' => (Date.padded 2 (d.year % 100)).toList
  | 'B' => (months.getD (d.month - 1) "").toList
  | 'b' => (months.getD (d.month - 1) "").toList.take 3
  | 'm' => (Date.padded 2 d.month).toList
  | 'A' => (weekdays.getD d.weekday "").toList
  | 'a' => (weekdays.getD d.weekday "").toList.take 3
  | 'd' => (Date.padded 2 d.day).toList
  | 'H' | 'M' | 'S' => "00".toList
  | 'I' => "12".toList
  | 'p' => "AM".toList
  | _ => []

section

variable {m : Moment} {s : Style} {c : Char} {t cs : List Char} {most n : Nat}

/-! ## Percent sign and letter -/

/-- What may stand between the percent sign and the letter. -/
def styling : List Char := "_-^#0123456789EO".toList

theorem isDigit_styling (h : c ∉ styling) : c.isDigit = false :=
  Bool.eq_false_iff.2 fun hdigit => h
    (ascii_all (p := fun c => c.isDigit = true → c ∈ styling) (by decide)
      (FreeForm.isDigit_ascii hdigit) hdigit)

theorem flags_styling (h : c ∉ styling) : flags s (c :: cs) = (s, c :: cs) := by
  have hne : ∀ f ∈ styling, c ≠ f := fun f hf heq => h (heq ▸ hf)
  rw [flags, if_neg, if_neg (hne '^' (by decide)), if_neg (hne '#' (by decide))]
  rintro (rfl | rfl | rfl) <;> exact h (by decide)

theorem formLetter_styling (h : c ∉ styling) : formLetter (c :: cs) = (none, c :: cs) := by
  unfold formLetter
  split
  · next heq => exact absurd (by rw [(List.cons.inj heq).1]; decide) h
  · next heq => exact absurd (by rw [(List.cons.inj heq).1]; decide) h
  · rfl

/-- The text of a letter that stands right behind its percent sign. -/
def plainText (m : Moment) (c : Char) : List Char :=
  match write? m .plain c with
  | some text => text
  | none => ['%', c]

@[simp]
theorem fill_plain (t : List Char) : fill .plain t = t := by
  have hnone : 0 - t.length = 0 := Nat.zero_sub _
  rw [fill, padded, Style.plain, hnone]
  rfl

@[simp]
theorem words_plain (t : List Char) : words .plain t = t := fill_plain t

@[simp]
theorem name_plain (text : String) : name .plain text = text.toList := fill_plain _

theorem directive_letter (h : c ∉ styling) : directive m most (c :: cs) = (plainText m c, 1) := by
  have hdigit := isDigit_styling h
  have htake : (c :: cs).takeWhile Char.isDigit = [] := by rw [List.takeWhile_cons, hdigit]; rfl
  have hdrop : (c :: cs).dropWhile Char.isDigit = c :: cs := by
    rw [List.dropWhile_cons, hdigit]
    rfl
  have hone : (c :: cs).length - cs.length = 1 := by rw [List.length_cons]; omega
  simp only [directive, flags_styling h, htake, hdrop, formLetter_styling h, hone, plainText,
    List.foldl_nil]
  change (match write? m .plain c with
    | some text => (text, 1)
    | none => (words .plain (if c = '%' then ['%'] else '%' :: [c]), 1)) = _
  cases hwrite : write? m .plain c with
  | some text => rfl
  | none =>
      have hpercent : c ≠ '%' := by
        rintro rfl
        cases hwrite
      simp only [words_plain, if_neg hpercent]

theorem writeFrom_plain (h : c ≠ '%') :
    writeFrom m most 0 (c :: cs) = c :: writeFrom m most 0 cs := by
  rw [writeFrom, if_neg h]

theorem writeFrom_letter (h : c ∉ styling) :
    writeFrom m most 0 ('%' :: c :: cs) = plainText m c ++ writeFrom m most 0 cs := by
  rw [writeFrom, if_pos rfl, directive_letter h]
  rfl

/-! ## Which letters are directives -/

/-- The letters of a single part, but those of the zone. -/
def simpleLetters : List Char := "aAbBCdegGhHIjklmMnpPsStuUVwWyY".toList

def compositeLetters : List Char := "cDFrRTxX".toList

theorem simple?_letters (m : Moment) (s : Style) :
    simpleLetters.all (fun c => (simple? m s c).isSome) = true := rfl

theorem mem_of_simple? (h : simple? m s c = some t) : c ∈ ['%', 'z', 'Z'] ++ simpleLetters := by
  unfold simple? at h
  split at h <;> first | decide | cases h

theorem mem_of_composite? (h : composite? c = some t) : c ∈ compositeLetters := by
  unfold composite? at h
  split at h <;> first | decide | cases h

theorem write?_plain (m : Moment) (c : Char) : write? m .plain c =
    match composite? c with
    | some parts => some (parts.flatMap fun c =>
        if c.isAlpha then (simple? m .plain c).getD [] else [c])
    | none => simple? m .plain c := by
  have hallowed : allows Style.plain.form c = true := rfl
  rw [write?, if_pos hallowed]
  cases composite? c with
  | none => rfl
  | some parts => simp only [words_plain]

/-- The letters that write something, but the percent sign and those of the zone. -/
def letters : List Char := simpleLetters ++ compositeLetters

/-- A letter without a meaning is copied, and the percent sign in front of it. -/
theorem plainText_idle (hletter : c ∉ letters) (hsign : c ∉ ['%', 'z', 'Z']) :
    plainText m c = ['%', c] := by
  have hnone : write? m .plain c = none := by
    rw [Option.eq_none_iff_forall_ne_some]
    intro t ht
    cases hparts : composite? c with
    | some parts => exact hletter (List.mem_append_right _ (mem_of_composite? hparts))
    | none =>
        rw [write?_plain, hparts] at ht
        rcases List.mem_append.1 (mem_of_simple? ht) with hmem | hmem
        · exact hsign hmem
        · exact hletter (List.mem_append_left _ hmem)
  rw [plainText, hnone]

/-! ## What a directive writes -/

/-- A text that is not taken for a percent sign. -/
structure Visible (t : List Char) : Prop where
  ne_nil : t ≠ []
  notMem : '%' ∉ t

theorem Visible.append {t' : List Char} (ht : '%' ∉ t) (h : Visible t') : Visible (t ++ t') :=
  ⟨List.append_ne_nil_of_right_ne_nil t h.ne_nil, List.not_mem_append ht h.notMem⟩

theorem visible_digits (n : Nat) : Visible (Nat.toDigits 10 n) :=
  ⟨Nat.toDigits_ne_nil, fun h => absurd (Numeral.toDigits_plain n _ h) (by decide)⟩

theorem visible_padded (hc : c ≠ '%') (h : Visible t) (n : Nat) : Visible (padded c n t) :=
  .append (fun hmem => hc (List.mem_replicate.1 hmem).2.symm) h

theorem visible_number (usual : Char) (digits : Nat) : Visible (number s digits usual n) := by
  unfold number
  split <;> exact visible_padded (by decide) (visible_digits n) _

instance : Decidable (Visible t) :=
  decidable_of_iff (t ≠ [] ∧ '%' ∉ t) ⟨fun h => ⟨h.1, h.2⟩, fun h => ⟨h.ne_nil, h.notMem⟩⟩

theorem visible_weekday (m : Moment) : Visible (name .plain (weekdayName m)) ∧
    Visible (name .plain (short (weekdayName m))) := by
  have hall : ∀ i < 7, Visible (weekdays.getD i "").toList ∧
      Visible (short (weekdays.getD i "")).toList := by decide
  rw [name_plain, name_plain]
  exact hall _ (Nat.mod_lt _ (by omega))

theorem visible_month (h : m.date.month ≤ 12) : Visible (name .plain (monthName m)) ∧
    Visible (name .plain (short (monthName m))) := by
  have hall : ∀ i < 13, Visible (months.getD (i - 1) "").toList ∧
      Visible (short (months.getD (i - 1) "")).toList := by decide
  rw [name_plain, name_plain]
  exact hall _ (by omega)

theorem visible_halfDay (m : Moment) (small : Bool) : Visible (halfDayText m .plain small) := by
  have hall : ∀ text ∈ ["AM", "PM"],
      Visible (text.toList.map fun c => if small || false then c.toLower else c) := by
    cases small <;> decide
  rw [halfDayText, fill_plain]
  refine hall (halfDay m) ?_
  unfold halfDay
  split <;> decide

theorem visible_simple? (hmonth : m.date.month ≤ 12) (h : simple? m .plain c = some t)
    (hc : c ∉ ['%', 'z', 'Z']) : Visible t := by
  unfold simple? at h
  split at h
  all_goals simp only [Option.some.injEq, reduceCtorEq] at h
  all_goals subst h
  -- Reducible, so that nothing is computed to see of which kind a text is.
  all_goals first
    | with_reducible exact visible_number _ _
    | with_reducible exact (visible_weekday m).1
    | with_reducible exact (visible_weekday m).2
    | with_reducible exact (visible_month hmonth).1
    | with_reducible exact (visible_month hmonth).2
    | with_reducible exact visible_halfDay m _
    | exact absurd (by decide) hc
    | (rw [fill_plain]; decide)
    | (rw [fill_plain]; exact .append (by split <;> decide) (visible_digits _))
    | exact visible_halfDay m false

theorem simple?_of_mem (h : c ∈ simpleLetters) : ∃ t, simple? m s c = some t :=
  Option.isSome_iff_exists.1 (List.all_eq_true.1 (simple?_letters m s) c h)

theorem Visible.flatMap {f : Char → List Char} (hne : cs ≠ []) (h : ∀ c ∈ cs, Visible (f c)) :
    Visible (cs.flatMap f) := by
  constructor
  · obtain ⟨c, tail, rfl⟩ := List.exists_cons_of_ne_nil hne
    rw [List.flatMap_cons]
    exact List.append_ne_nil_of_left_ne_nil (h c List.mem_cons_self).ne_nil _
  · intro hmem
    obtain ⟨c, hc, hmem⟩ := List.mem_flatMap.1 hmem
    exact (h c hc).notMem hmem

theorem composite?_parts : ∀ c ∈ compositeLetters, ∃ parts ∈ composite? c, parts ≠ [] ∧
    ∀ p ∈ parts, p ≠ '%' ∧ (p.isAlpha = true → p ∈ simpleLetters) := by
  intro c hc
  have hall : ∀ c ∈ compositeLetters, (composite? c).any (fun parts => parts ≠ [] ∧
    ∀ p ∈ parts, p ≠ '%' ∧ (p.isAlpha = true → p ∈ simpleLetters)) = true := by decide
  exact (Option.any_eq_true _ _).1 (hall c hc) |>.imp fun _ h => ⟨h.1, of_decide_eq_true h.2⟩

/-- A letter with a meaning writes a text in which there is no percent sign. -/
theorem plainText_visible (hmonth : m.date.month ≤ 12) (h : c ∈ letters) :
    Visible (plainText m c) := by
  have hsigns : ∀ c ∈ simpleLetters, c ∉ ['%', 'z', 'Z'] := by decide
  rw [plainText, write?_plain]
  rcases List.mem_append.1 h with h | h
  · have hsingle : ∀ c ∈ simpleLetters, composite? c = none := by decide
    obtain ⟨t, ht⟩ := simple?_of_mem (m := m) (s := .plain) h
    rw [hsingle c h, ht]
    exact visible_simple? hmonth ht (hsigns c h)
  · obtain ⟨parts, hparts, hne, hall⟩ := composite?_parts c h
    rw [hparts]
    refine Visible.flatMap hne fun p hp => ?_
    obtain ⟨hpercent, hsimple⟩ := hall p hp
    split
    · next halpha =>
      obtain ⟨t, ht⟩ := simple?_of_mem (m := m) (s := .plain) (hsimple halpha)
      rw [ht]
      exact visible_simple? hmonth ht (hsigns p (hsimple halpha))
    · exact ⟨List.cons_ne_nil _ _, by simpa using Ne.symm hpercent⟩

/-! ## The parts of a day -/

/-- The letters of the groups of a pattern, but those of the zone. -/
def partLetters : List Char := ['Y', 'B', 'A', 'b', 'a', 'y', 'm', 'd', 'H', 'I', 'M', 'S', 'p']

theorem number_padded (digits n : Nat) :
    number .plain digits '0' n = (Date.padded digits n).toList := by
  rw [Date.toList_padded]
  change padded '0' (max digits 0) _ = _
  rw [Nat.max_zero]
  rfl

theorem plainText_field (d : Date) : ∀ c ∈ partLetters, plainText (midnight d) c = field d c := by
  simp only [partLetters, List.forall_mem_cons]
  refine ⟨number_padded _ _, name_plain _, name_plain _, ?_, ?_, number_padded _ _,
    number_padded _ _, number_padded _ _, (number_padded 2 0).trans rfl,
    (number_padded 2 12).trans rfl, (number_padded 2 0).trans rfl, (number_padded 2 0).trans rfl,
    ?_, fun c hc => absurd hc List.not_mem_nil⟩
  · exact (name_plain _).trans String.toList_ofList
  · exact (name_plain _).trans String.toList_ofList
  · have hmorning : halfDay (midnight d) = "AM" := if_pos (Nat.zero_lt_succ 11)
    refine (fill_plain _).trans ?_
    rw [hmorning]
    rfl

/-- What tells the part that a letter stands for from the letter, and from the
letters of the zone, for which nothing is written. -/
structure PartText (c : Char) (t : List Char) : Prop where
  ne_nil : t ≠ []
  head : t.head? ≠ some c
  noZone : 'z' ∉ t ∧ 'Z' ∉ t
  length : t.length ≤ 9

instance : Decidable (PartText c t) :=
  decidable_of_iff (t ≠ [] ∧ t.head? ≠ some c ∧ ('z' ∉ t ∧ 'Z' ∉ t) ∧ t.length ≤ 9)
    ⟨fun h => ⟨h.1, h.2.1, h.2.2.1, h.2.2.2⟩, fun h => ⟨h.ne_nil, h.head, h.noZone, h.length⟩⟩

theorem partText_padded (hc : c.isDigit = false) {width : Nat} (hwidth : width ≤ 9)
    (hn : n < 10000) : PartText c (Date.padded width n).toList := by
  obtain ⟨hne, hdigits, -⟩ := spells_padded width n
  refine ⟨hne, fun hhead => ?_, ⟨fun h => ?_, fun h => ?_⟩, ?_⟩
  · rw [hdigits c (List.mem_of_mem_head? hhead)] at hc
    cases hc
  · exact absurd (hdigits _ h) (by decide)
  · exact absurd (hdigits _ h) (by decide)
  · have hlength : (Nat.toDigits 10 n).length ≤ 4 :=
      (Nat.length_toDigits_le_iff (by omega) (by omega)).2 hn
    rw [Date.toList_padded, List.length_append, List.length_replicate]
    omega

theorem partText_field {d : Date} (h : Date.make? d.year d.month d.day = some d) :
    ∀ c ∈ partLetters, PartText c (field d c) := by
  have hmonths : ∀ i < 13, PartText 'B' (months.getD (i - 1) "").toList ∧
      PartText 'b' ((months.getD (i - 1) "").toList.take 3) := by decide
  have hweekdays : ∀ i < 7, PartText 'A' (weekdays.getD i "").toList ∧
      PartText 'a' ((weekdays.getD i "").toList.take 3) := by decide
  obtain ⟨hH, hI, hM, hS, hp⟩ : PartText 'H' "00".toList ∧ PartText 'I' "12".toList ∧
      PartText 'M' "00".toList ∧ PartText 'S' "00".toList ∧ PartText 'p' "AM".toList := by decide
  have hbounds := Date.inCalendar h
  obtain ⟨hB, hb⟩ := hmonths d.month (by omega)
  obtain ⟨hA, ha⟩ := hweekdays d.weekday (Nat.mod_lt _ (by omega))
  simp only [partLetters, List.forall_mem_cons]
  exact ⟨partText_padded rfl (by omega) (by omega), hB, hA, hb, ha,
    partText_padded rfl (by omega) (by omega), partText_padded rfl (by omega) (by omega),
    partText_padded rfl (by omega) (by omega), hH, hI, hM, hS, hp,
    fun c hc => absurd hc List.not_mem_nil⟩

end

end Stencil.Directive
