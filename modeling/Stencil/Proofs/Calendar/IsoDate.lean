import Stencil.Calendar.FreeForm.Reader
import Stencil.Proofs.Number.Pointed
import Stencil.Proofs.Text.Case

/-!
# A day that is written is read back

The reader of free-form dates takes its text apart into tokens and guesses what
each number is. For a day as `YYYY-MM-DD` nothing is left to guess: the first
number has four digits, which makes it the year, and a year in front decides the
order of the other two. Digits name no month, day, unit or zone, so the five
tokens are taken by the rule for numbers with a mark between them at once.
-/

namespace Stencil

open Text

/-- Digits that spell the number `n`. -/
structure Spells (n : Nat) (ds : List Char) : Prop where
  ne_nil : ds ≠ []
  digits : ∀ c ∈ ds, c.isDigit = true
  value : Numeral.digitsValue ds = n

theorem Date.toList_padded (width n : Nat) : (Date.padded width n).toList =
    List.replicate (width - (Nat.toDigits 10 n).length) '0' ++ Nat.toDigits 10 n :=
  String.toList_ofList

theorem spells_padded (width n : Nat) : Spells n (Date.padded width n).toList := by
  have hdigits : ∀ c ∈ (Date.padded width n).toList, c.isDigit = true := by
    intro c hc
    rw [Date.toList_padded] at hc
    rcases List.mem_append.1 hc with hc | hc
    · rw [(List.mem_replicate.1 hc).2]
      rfl
    · exact Numeral.toDigits_plain n c hc
  refine ⟨?_, hdigits, ?_⟩
  · rw [Date.toList_padded]
    exact List.append_ne_nil_of_right_ne_nil _ Nat.toDigits_ne_nil
  · rw [Numeral.digitsValue_plain hdigits, Date.toList_padded, Nat.ofDigitChars_append]
    have hzeros : ∀ k, Nat.ofDigitChars 10 (List.replicate k '0') 0 = 0 := by
      intro k
      induction k with
      | zero => rfl
      | succ k ih => exact ih
    rw [hzeros, Nat.ofDigitChars_toDigits (by omega) (by omega)]

theorem Date.length_padded {width n : Nat} (hwidth : 0 < width) (h : n < Nat.pow 10 width) :
    (Date.padded width n).toList.length = width := by
  have hlength := (Nat.length_toDigits_le_iff (by omega) hwidth).2 h
  rw [Date.toList_padded, List.length_append, List.length_replicate]
  omega

namespace FreeForm

section

variable {n : Nat} {c : Char} {ds rest : List Char}

theorem isDigit_ascii (h : c.isDigit = true) : c.toNat < 0x80 := by
  have hnine : '9'.toNat = 57 := rfl
  have hle := (Char.isDigit_iff_toNat.1 h).2
  omega

/-! ## Tokens -/

/-- What may follow the digits of a date. -/
def Closes (rest : List Char) : Prop := rest = [] ∨ ∃ cs, rest = '-' :: cs

theorem extend_digits (h : ∀ c ∈ ds, c.isDigit = true) (hrest : Closes rest) (seen : List Char) :
    extend .number seen false (ds ++ rest) = (seen.reverse ++ ds, .number, false, rest) := by
  induction ds generalizing seen with
  | nil =>
      rw [List.append_nil]
      rcases hrest with rfl | ⟨cs, rfl⟩
      · rfl
      · simp [extend, Shape.next?, show isDigit '-' = false by decide]
  | cons d ds ih =>
      obtain ⟨hd, hds⟩ := List.forall_mem_cons.1 h
      have hnext : ∀ last size, Shape.next? .number last size d = some .number := fun _ _ => by
        rw [Shape.next?, if_pos (Numeral.isDigit_plain hd)]
      have hletters : (false || Shape.number == .word || Shape.number == .dottedWord) = false := rfl
      rw [List.cons_append, extend]
      simp only [hnext, hletters, ih hds, List.reverse_cons, List.append_assoc,
        List.singleton_append]

theorem tokensFrom_digits (h : Spells n ds) (hrest : Closes rest) (tries : Nat) :
    tokensFrom (tries + 1) (ds ++ rest) = ds :: tokensFrom tries rest := by
  obtain ⟨d, tail, rfl⟩ := List.exists_cons_of_ne_nil h.ne_nil
  obtain ⟨hd, htail⟩ := List.forall_mem_cons.1 h.digits
  have hdigit := Numeral.isDigit_plain hd
  have hletter : isLetter d = false := by rw [isLetter, hdigit, Bool.not_true, Bool.and_false]; rfl
  rw [List.cons_append, tokensFrom, hletter, hdigit]
  simp only [Bool.or_true, if_true, Bool.false_eq_true, if_false, extend_digits htail hrest]
  rfl

theorem tokensFrom_hyphen (tries : Nat) (cs : List Char) :
    tokensFrom (tries + 1) ('-' :: cs) = ['-'] :: tokensFrom tries cs := by
  have hpiece : (isLetter '-' || isDigit '-') = false := by decide
  have hblank : isBlank '-' = false := by decide
  rw [tokensFrom, hpiece, hblank]
  rfl

/-! ## What a token of digits is not -/

theorem word_digits (h : ∀ c ∈ ds, c.isDigit = true) : (word ds).toList = ds := by
  have hascii : IsAscii ds := fun c hc => isDigit_ascii (h c hc)
  rw [word, String.toList_ofList, lower_ascii hascii]
  refine (List.map_congr_left fun c hc => ?_).trans (List.map_id ds)
  exact ascii_all (p := fun c => c.isDigit = true → c.toLower = c) (by decide) (hascii c hc) (h c hc)

/-- No name that begins with something else than a digit. -/
theorem word_digits_notMem (h : Spells n ds) {names : List String}
    (hnames : ∀ name ∈ names, ∀ c ∈ name.toList.head?, c.isDigit = false) :
    names.contains (word ds) = false := by
  refine Bool.eq_false_iff.2 fun hmem => ?_
  have hword := hnames _ (List.contains_iff_mem.1 hmem)
  obtain ⟨d, tail, rfl⟩ := List.exists_cons_of_ne_nil h.ne_nil
  rw [word_digits h.digits] at hword
  exact absurd (h.digits d List.mem_cons_self) (by rw [hword d rfl]; decide)

theorem placeIn?_digits (h : Spells n ds) {lists : List (List String)}
    (hlists : ∀ names ∈ lists, ∀ name ∈ names, ∀ c ∈ name.toList.head?, c.isDigit = false) :
    placeIn? lists ds = none :=
  List.findIdx?_eq_none_iff.2 fun names hnames => word_digits_notMem h (hlists names hnames)

theorem month?_digits (h : Spells n ds) : month? ds = none := by
  rw [month?, placeIn?_digits h (by decide)]
  rfl

theorem isFiller_digits (h : Spells n ds) : isFiller ds = false := word_digits_notMem h (by decide)

/-! ## What it is -/

theorem all_isDigit (h : ∀ c ∈ ds, c.isDigit = true) : ds.all isDigit = true :=
  List.all_eq_true.2 fun c hc => Numeral.isDigit_plain (h c hc)

theorem whole?_spells (h : Spells n ds) : whole? ds = some n := by
  rw [whole?, all_isDigit h.digits, List.isEmpty_eq_false_iff.2 h.ne_nil, h.value]
  rfl

theorem ofToken?_spells (h : Spells n ds) : Decimal.ofToken? ds = some ⟨n, 0⟩ := by
  rw [Decimal.ofToken?, if_pos (all_isDigit h.digits), List.isEmpty_eq_false_iff.2 h.ne_nil, h.value]
  rfl

/-- A token of digits is a number. -/
theorem readFloat?_spells (h : Spells n ds) : (Numeral.readFloat? ds).isSome = true := by
  have htrim : trimWhile Numeral.isPadding ds = ds := trimWhile_of_none fun c hc =>
    Numeral.not_isPadding (Numeral.isBlank_plain (h.digits c hc))
  simp only [Numeral.readFloat?, htrim, Numeral.splitSign_plain h.digits,
    Numeral.fraction?_plain h.ne_nil h.digits]
  rfl

/-! ## A whole date -/

theorem unit?_hyphen : unit? ['-'] = none := by decide

/-- The parts of a date that three numbers in a row are known to be, the first
of them a year. -/
def yearFirst (y m d : Nat) : DayParts := ⟨[y, m, d], true, some 0, none, none⟩

variable {y m d : Nat} {ys ms ts : List Char}

theorem pushToken_year (hy : Spells y ys) (hlength : ys.length = 4) :
    DayParts.empty.pushToken ys none = some ⟨[y], true, some 0, none, none⟩ := by
  rw [DayParts.pushToken, whole?_spells hy, hlength]
  rfl

theorem pushToken_short (hd : Spells d ds) (hlength : ds.length = 2) (p : DayParts) :
    p.pushToken ds none = some { p with values := p.values ++ [d] } := by
  rw [DayParts.pushToken, whole?_spells hd, hlength]
  rfl

/-- The digits of the three numbers of a date. -/
structure SpellsDate (y m d : Nat) (ys ms ds : List Char) : Prop where
  year : Spells y ys
  month : Spells m ms
  day : Spells d ds
  yearLength : ys.length = 4
  monthLength : ms.length = 2
  dayLength : ds.length = 2

theorem separated?_date (h : SpellsDate y m d ys ms ds) :
    separated? #[ys, ['-'], ms, ['-'], ds] 0 ys .nothing =
      some ({ Known.nothing with day := yearFirst y m d }, 4) := by
  have hnumber : (!ms.isEmpty && ms.all isDigit) = true := by
    rw [List.isEmpty_eq_false_iff.2 h.month.ne_nil, all_isDigit h.month.digits]
    rfl
  simp [separated?, Known.nothing, pushToken_year h.year h.yearLength, isFiller_digits h.month,
    hnumber, pushToken_short h.month h.monthLength, month?_digits h.day,
    pushToken_short h.day h.dayLength, yearFirst]

theorem number?_date (h : SpellsDate y m d ys ms ds) :
    number? #[ys, ['-'], ms, ['-'], ds] 0 .nothing =
      some ({ Known.nothing with day := yearFirst y m d }, 4) := by
  have hunit : unitPlace? #[ys, ['-'], ms, ['-'], ds] 0 = none := by
    simp [unitPlace?, Tokens.isMark, unit?_hyphen]
  rw [← separated?_date h]
  simp [number?, ofToken?_spells h.year, h.yearLength, hunit, Tokens.isMark, Known.nothing,
    DayParts.empty]

theorem readFrom_date (h : SpellsDate y m d ys ms ds) (today : Date) (tries : Nat) :
    readFrom today (tries + 2) #[ys, ['-'], ms, ['-'], ds] 0 .nothing =
      some { Known.nothing with day := yearFirst y m d } := by
  have hhead : (ys.head?.map isDigit).getD false = true := by
    obtain ⟨c, tail, rfl⟩ := List.exists_cons_of_ne_nil h.year.ne_nil
    exact Numeral.isDigit_plain (h.year.digits c List.mem_cons_self)
  simp [readFrom, hhead, readFloat?_spells h.year, number?_date h]

theorem momentOf?_yearFirst {date : Date} (h : Date.make? y m d = some date) (today : Date) :
    momentOf? today { Known.nothing with day := yearFirst y m d } =
      some ⟨date, 0, 0, 0, 0, none⟩ := by
  have hparts : (yearFirst y m d).resolve? = some ⟨some y, some m, some d⟩ := by
    simp [DayParts.resolve?, DayParts.known?, DayParts.three, yearFirst]
  have hfull : (yearFirst y m d).fullYear = true := rfl
  simp [momentOf?, hparts, h, Known.nothing, monthName?.century, hfull, zoneOf, Moment.make?]

theorem tokens_date (h : SpellsDate y m d ys ms ds) :
    tokens (ys ++ '-' :: (ms ++ '-' :: ds)) = [ys, ['-'], ms, ['-'], ds] := by
  have hdigits : ∀ {n ds}, Spells n ds → ∀ c ∈ ds, (c != '\x00') = true := fun hn c hc =>
    ascii_all (p := fun c => c.isDigit = true → (c != '\x00') = true) (by decide)
      (isDigit_ascii (hn.digits c hc)) (hn.digits c hc)
  have hfilter : (ys ++ '-' :: (ms ++ '-' :: ds)).filter (· != '\x00') =
      ys ++ '-' :: (ms ++ '-' :: ds) := by
    simp only [List.filter_eq_self, List.forall_mem_append, List.forall_mem_cons]
    exact ⟨hdigits h.year, by decide, hdigits h.month, by decide, hdigits h.day⟩
  have hlength : (ys ++ '-' :: (ms ++ '-' :: ds)).length = 10 := by
    simp [h.yearLength, h.monthLength, h.dayLength]
  rw [tokens, hfilter, hlength, tokensFrom_digits h.year (.inr ⟨_, rfl⟩), tokensFrom_hyphen,
    tokensFrom_digits h.month (.inr ⟨_, rfl⟩), tokensFrom_hyphen]
  have hlast := tokensFrom_digits h.day (.inl rfl) 5
  rw [List.append_nil] at hlast
  rw [hlast]
  rfl

end

end FreeForm

/-! ## Days of the calendar -/

section

variable {d : Date} (h : Date.make? d.year d.month d.day = some d)

include h

theorem Date.inCalendar :
    d.year ≤ 9999 ∧ 1 ≤ d.month ∧ d.month ≤ 12 ∧ 1 ≤ d.day ∧ d.day ≤ 31 := by
  rw [Date.make?] at h
  split at h
  · rename_i hbounds
    have hlast : Date.daysIn d.year d.month ≤ 31 := by
      unfold Date.daysIn
      split
      · split <;> omega
      all_goals omega
    omega
  · cases h

/-- A day that is written is read back, wherever the parts that a text leaves out
would be taken from. -/
theorem FreeForm.read?_toText (today : Date) :
    FreeForm.read? today d.toText.toList = some ⟨d, 0, 0, 0, 0, none⟩ := by
  obtain ⟨hyear, -, hmonth, -, hday⟩ := Date.inCalendar h
  have hdate : FreeForm.SpellsDate d.year d.month d.day (Date.padded 4 d.year).toList
      (Date.padded 2 d.month).toList (Date.padded 2 d.day).toList :=
    ⟨spells_padded 4 d.year, spells_padded 2 d.month, spells_padded 2 d.day,
      Date.length_padded (by omega) (Nat.lt_of_le_of_lt hyear (by decide)),
      Date.length_padded (by omega) (Nat.lt_of_le_of_lt hmonth (by decide)),
      Date.length_padded (by omega) (Nat.lt_of_le_of_lt hday (by decide))⟩
  have htext : d.toText.toList = (Date.padded 4 d.year).toList ++
      '-' :: ((Date.padded 2 d.month).toList ++ '-' :: (Date.padded 2 d.day).toList) := by
    simp [Date.toText]
  rw [FreeForm.read?, htext, FreeForm.tokens_date hdate]
  exact (congrArg (Option.bind · (FreeForm.momentOf? today))
    (FreeForm.readFrom_date hdate today 4)).trans (FreeForm.momentOf?_yearFirst h today)

end

end Stencil
