import Stencil.Proofs.Filters.Inverses
import Stencil.Proofs.Number.Exact
import Stencil.Proofs.Number.Pointed

/-!
# An amount of money is its own amount

A whole number becomes money by way of a floating number, and money becomes a
floating number again by way of its text. Up to `2 ^ 53` both ways end at the same
floating number, the one that stands for the whole number exactly: the first
reads the number as a quotient over one, the second its hundredths over a
hundred. So the amount that is written for an amount is that amount.

What makes the second way possible is that a symbol without any character of a
number stands only where it was put, and that the commas stand for nothing.
-/

namespace Stencil

open Text

/-! ## Groups of three -/

/-- Digits with a comma before every group of three, counted from the right. In
front stand up to three digits without a comma. -/
def Grouped (ds cs : List Char) : Prop :=
  ∃ (lead : List Char) (groups : List (List Char)), ds = lead ++ groups.flatten ∧
    cs = lead ++ groups.flatMap (',' :: ·) ∧ (0 < lead.length ∧ lead.length ≤ 3) ∧
    ∀ group ∈ groups, group.length = 3

/-- Groups of three count nothing towards what is left over. -/
theorem length_flatten_three {groups : List (List Char)}
    (h : ∀ group ∈ groups, group.length = 3) : groups.flatten.length % 3 = 0 := by
  induction groups with
  | nil => rfl
  | cons group groups ih =>
      obtain ⟨hgroup, hrest⟩ := List.forall_mem_cons.1 h
      rw [List.flatten_cons, List.length_append, hgroup, Nat.add_mod_left, ih hrest]

theorem groupThousands_grouped : ∀ {ds : List Char}, ds ≠ [] → Grouped ds (groupThousands ds) := by
  intro ds
  induction ds with
  | nil => exact fun h => absurd rfl h
  | cons d ds ih =>
      intro _
      rw [groupThousands]
      by_cases hnil : ds = []
      · subst hnil
        exact ⟨[d], [], rfl, rfl, by simp, by simp⟩
      · obtain ⟨lead, groups, hds, hcs, ⟨hpos, hthree⟩, hgroups⟩ := ih hnil
        have hlength : ds.length % 3 = lead.length % 3 := by
          rw [hds, List.length_append, Nat.add_mod, length_flatten_three hgroups, Nat.add_zero,
            Nat.mod_mod]
        split
        · next hfull =>
            refine ⟨[d], lead :: groups, ?_, ?_, by simp, List.forall_mem_cons.2 ⟨?_, hgroups⟩⟩
            · rw [List.flatten_cons, ← hds]
              rfl
            · rw [hcs, List.flatMap_cons]
              rfl
            · omega
        · next hpart =>
            refine ⟨d :: lead, groups, ?_, ?_, ⟨Nat.succ_pos _, ?_⟩, hgroups⟩
            · rw [List.cons_append, ← hds]
            · rw [List.cons_append, ← hcs]
            · have : ds.length % 3 ≠ 0 := fun h => hpart ⟨h, hnil⟩
              rw [List.length_cons]
              omega

example : groupThousands ['1', '2', '3', '4', '5'] = ['1', '2', ',', '3', '4', '5'] := by decide

theorem mem_groupThousands {c : Char} {ds : List Char} (hc : c ∈ groupThousands ds) :
    c = ',' ∨ c ∈ ds := by
  induction ds with
  | nil => cases hc
  | cons d ds ih =>
      have hrest : c ∈ groupThousands ds → c = ',' ∨ c ∈ d :: ds :=
        fun hc => (ih hc).imp_right (List.mem_cons_of_mem d)
      rw [groupThousands] at hc
      split at hc
      · rcases List.mem_cons.1 hc with rfl | hc
        · exact .inr List.mem_cons_self
        · rcases List.mem_cons.1 hc with rfl | hc
          · exact .inl rfl
          · exact hrest hc
      · rcases List.mem_cons.1 hc with rfl | hc
        · exact .inr List.mem_cons_self
        · exact hrest hc

/-- Without its commas a grouped text is its digits. -/
theorem groupThousands_filter {ds : List Char} (h : ',' ∉ ds) :
    (groupThousands ds).filter (· != ',') = ds := by
  induction ds with
  | nil => rfl
  | cons d ds ih =>
      rw [List.mem_cons, not_or] at h
      have hd : (d != ',') = true := bne_iff_ne.2 (Ne.symm h.1)
      rw [groupThousands]
      split <;> simp [hd, ih h.2]

namespace Money

/-! ## Taking the symbol out -/

theorem replacePhrase_absent {p : Char} {ps new cs : List Char} (h : p ∉ cs) :
    replacePhrase p ps new cs = cs := by
  induction cs with
  | nil => rw [replacePhrase]
  | cons c cs ih =>
      rw [List.mem_cons, not_or] at h
      have hfront : (p :: ps).isPrefixOf (c :: cs) = false := by simp [List.isPrefixOf, h.1]
      rw [replacePhrase, hfront, if_neg Bool.false_ne_true, ih h.2]

/-- A phrase stands in front of a text only where it was put there, if the text
has none of its characters. -/
theorem replaceAll_front {old cs : List Char} (hold : old ≠ []) (h : ∀ c ∈ old, c ∉ cs) :
    replaceAll old [] (old ++ cs) = cs := by
  obtain ⟨p, ps, rfl⟩ := List.exists_cons_of_ne_nil hold
  have hfront : (p :: ps).isPrefixOf (p :: (ps ++ cs)) = true :=
    List.isPrefixOf_iff_prefix.2 (List.prefix_append (p :: ps) cs)
  rw [replaceAll, List.cons_append, replacePhrase, hfront, if_pos rfl, List.drop_left,
    List.nil_append, replacePhrase_absent (h p List.mem_cons_self)]

/-! ## Whole amounts -/

/-- The symbol, a sign if the number is negative, the text of its digits and no
hundredths. -/
def wholeAmount (symbol : String) (n : Int) (digits : List Char) : String :=
  symbol ++ String.ofList ((if n < 0 then ['-'] else []) ++ (digits ++ ['.', '0', '0']))

/-- A character that no number is written with. -/
def isMark (c : Char) : Bool := !c.isDigit && !(['.', ',', '-'].contains c)

section

variable {n : Int} {symbol : String} {ds : List Char}

theorem isMark_number (h : ∀ c ∈ ds, c.isDigit = true) :
    ∀ c ∈ (if n < 0 then ['-'] else []) ++ (groupThousands ds ++ ['.', '0', '0']),
      isMark c = false := by
  have hdigit : ∀ c : Char, c.isDigit = true → isMark c = false := fun c hc => by
    rw [isMark, hc]
    rfl
  simp only [List.forall_mem_append]
  refine ⟨?_, fun c hc => ?_, by decide⟩
  · split
    · decide
    · exact fun c hc => nomatch hc
  · rcases mem_groupThousands hc with rfl | hc
    · decide
    · exact hdigit c (h c hc)

/-- A symbol of marks is taken out of an amount again, and nothing else is. -/
theorem withoutSymbol_wholeAmount (hsymbol : ∀ c ∈ symbol.toList, isMark c = true)
    (h : ∀ c ∈ ds, c.isDigit = true) :
    (if symbol.toList.isEmpty then (wholeAmount symbol n (groupThousands ds)).toList
      else replaceAll symbol.toList [] (wholeAmount symbol n (groupThousands ds)).toList) =
        (if n < 0 then ['-'] else []) ++ (groupThousands ds ++ ['.', '0', '0']) := by
  rw [wholeAmount, String.toList_append, String.toList_ofList]
  split
  · next hempty => rw [List.isEmpty_iff.1 hempty, List.nil_append]
  · next hempty =>
      refine replaceAll_front (fun hnil => hempty (List.isEmpty_iff.2 hnil)) fun c hc hmem => ?_
      have hmark := hsymbol c hc
      rw [isMark_number h c hmem] at hmark
      cases hmark

/-- Without symbol and commas a whole amount is the number with a point. -/
theorem amount?_wholeAmount (hsymbol : ∀ c ∈ symbol.toList, isMark c = true) (hne : ds ≠ [])
    (h : ∀ c ∈ ds, c.isDigit = true) :
    amount? symbol.toList (wholeAmount symbol n (groupThousands ds)).toList =
      some (Binary64.ofDecimal (n < 0) (Numeral.digitsValue (ds ++ ['0', '0'])) (-2)) := by
  have hzeros : ∀ c ∈ ['0', '0'], c.isDigit = true := by decide
  have hsign : (if n < 0 then ['-'] else []) = if decide (n < 0) then ['-'] else [] := by simp
  have hcommas : ((if n < 0 then ['-'] else []) ++
      (groupThousands ds ++ ['.', '0', '0'])).filter (· != ',') =
        (if decide (n < 0) then ['-'] else []) ++ (ds ++ '.' :: ['0', '0']) := by
    have hcomma : ',' ∉ ds := fun hmem => absurd (h _ hmem) (by decide)
    rw [List.filter_append, List.filter_append, groupThousands_filter hcomma, hsign]
    congr 1
    split <;> rfl
  rw [amount?, withoutSymbol_wholeAmount hsymbol h, hcommas, trim,
    trimWhile_of_none (Numeral.isBlank_pointed _ h hzeros),
    Numeral.readFloat?_pointed _ hne (List.cons_ne_nil _ _) h hzeros]
  rfl

theorem digitsValue_hundredths (ds : List Char) :
    Numeral.digitsValue (ds ++ ['0', '0']) = Numeral.digitsValue ds * 100 := by
  have hzero : (digitValue? '0').getD 0 = 0 := rfl
  simp only [Numeral.digitsValue, List.foldl_append, List.foldl_cons, List.foldl_nil, hzero]
  omega

end

/-! ## The filter -/

/-- The filter with a symbol, which is `$` if none is given. -/
theorem apply_currency {args : List Value} {symbol : String} {v w : Value}
    (hargs : args = [.str symbol] ∨ args = [] ∧ symbol = "$")
    (h : currency v (.str symbol) = .ok w) :
    Registry.standard.apply "currency" v args = .ok w := by
  refine Standard.apply_of_get
    (f := ⟨some "currency", Standard.withOptional (.str "$") currency⟩) rfl ?_
  rcases hargs with rfl | ⟨rfl, rfl⟩
  · exact h
  · exact h

/-- A whole number up to `2 ^ 53` in size is written as money with a symbol of
marks: the symbol, its sign, its digits with commas between groups of three, and
no hundredths. The filter writes the same for what it has written. -/
theorem currency_whole {n : Int} {symbol : String} {args : List Value} (hn : n.natAbs ≤ 2 ^ 53)
    (hsymbol : ∀ c ∈ symbol.toList, isMark c = true)
    (hargs : args = [.str symbol] ∨ args = [] ∧ symbol = "$") :
    ∃ digits, Grouped (Nat.toDigits 10 n.natAbs) digits ∧
      Registry.standard.apply "currency" (.int n) args =
        .ok (.str (wholeAmount symbol n digits)) ∧
      Registry.standard.apply "currency" (.str (wholeAmount symbol n digits)) args =
        .ok (.str (wholeAmount symbol n digits)) := by
  obtain ⟨m, e, hstands, hratio⟩ := Binary64.exists_ofRatio hn
  have hdigits := Numeral.toDigits_plain n.natAbs
  have hwritten : symbol ++ written (.finite (n < 0) m e) =
      wholeAmount symbol n (groupThousands (Nat.toDigits 10 n.natAbs)) := by
    rw [written, Binary64.toGroupedHundredths_whole hstands, List.append_assoc, wholeAmount]
    simp
  refine ⟨_, groupThousands_grouped Nat.toDigits_ne_nil, apply_currency hargs ?_,
    apply_currency hargs ?_⟩
  · have hnumber : Binary64.ofInt? n = some (.finite (n < 0) m e) := by
      have hone := hratio (n < 0) 1 Nat.one_pos
      rw [Nat.mul_one] at hone
      rw [Binary64.ofInt?, hone]
    rw [← hwritten, currency]
    simp only [Value.plain?, ok_bind, hnumber]
  · have hnumber : amount? symbol.toList
        (wholeAmount symbol n (groupThousands (Nat.toDigits 10 n.natAbs))).toList =
          some (.finite (n < 0) m e) := by
      rw [amount?_wholeAmount hsymbol Nat.toDigits_ne_nil hdigits, digitsValue_hundredths,
        Numeral.digitsValue_plain hdigits, Nat.ofDigitChars_toDigits (by omega) (by omega),
        Binary64.ofDecimal_hundredths hn, hratio _ _ (by omega)]
    rw [currency]
    simp only [Value.plain?, ok_bind, Value.str?, Option.bind_some, hnumber, hwritten]

theorem currency_whole_negative :
    (-1234567 : Int).natAbs ≤ 2 ^ 53 ∧ (∀ c ∈ "kr ".toList, isMark c = true) ∧
      ∃ digits, Grouped (Nat.toDigits 10 (-1234567 : Int).natAbs) digits ∧
        Registry.standard.apply "currency" (.int (-1234567)) [.str "kr "] =
          .ok (.str (wholeAmount "kr " (-1234567) digits)) ∧
        Registry.standard.apply "currency" (.str (wholeAmount "kr " (-1234567) digits))
          [.str "kr "] = .ok (.str (wholeAmount "kr " (-1234567) digits)) :=
  ⟨by decide, by decide, currency_whole (n := -1234567) (by decide) (by decide) (.inl rfl)⟩

end Money

end Stencil
