import Mathlib.Algebra.Group.Nat.Defs
import Stencil.Proofs.Encoding.Hex
import Stencil.Proofs.Number.Numeral
import Stencil.Proofs.Text.Trim
import Stencil.Value.Display

/-!
# What is displayed tells the value

Null, truth values, whole numbers and texts are told apart by how they are
displayed. The first character tells the sort, and within a sort nothing is
lost: digits are read back, and in a text whatever is written for a character
can be taken off the front of anything that follows it.
-/

namespace Stencil

/-! ## Codes -/

/-- If what is written for one thing can be taken off the front of anything, no
two lists are written alike. -/
theorem flatMap_injective_of_read {α β : Type} {write : α → List β}
    {read? : List β → Option (α × List β)} (hnil : read? [] = none)
    (hread : ∀ a rest, read? (write a ++ rest) = some (a, rest)) :
    Function.Injective (List.flatMap write) := by
  intro as
  induction as with
  | nil =>
      intro bs h
      cases bs with
      | nil => rfl
      | cons b bs =>
          have hb := hread b (bs.flatMap write)
          rw [← List.flatMap_cons, ← h, List.flatMap_nil, hnil] at hb
          cases hb
  | cons a as ih =>
      intro bs h
      have ha := hread a (as.flatMap write)
      rw [← List.flatMap_cons, h] at ha
      cases bs with
      | nil =>
          rw [List.flatMap_nil, hnil] at ha
          cases ha
      | cons b bs =>
          rw [List.flatMap_cons, hread] at ha
          obtain ⟨rfl, hrest⟩ := Prod.mk.inj (Option.some.inj ha)
          rw [ih hrest.symm]

namespace Display

open Stencil.Text

/-! ## Numbers in base sixteen -/

/-- The number that digits in base sixteen stand for. -/
def hexNumber (cs : List Char) : Nat := cs.foldl (fun n c => n * 16 + (hexValue? c).getD 0) 0

theorem hexNumber_concat (cs : List Char) (c : Char) :
    hexNumber (cs ++ [c]) = hexNumber cs * 16 + (hexValue? c).getD 0 := by
  rw [hexNumber, List.foldl_append, List.foldl_cons, List.foldl_nil, hexNumber]

theorem hexNumber_toDigits (n : Nat) : hexNumber (Nat.toDigits 16 n) = n := by
  have hdigit : ∀ d < 16, (hexValue? d.digitChar).getD 0 = d := by decide
  induction n using Nat.strongRecOn with
  | ind n ih =>
      by_cases hn : n < 16
      · rw [Nat.toDigits_of_lt_base hn]
        exact (Nat.zero_add _).trans (hdigit n hn)
      · rw [Nat.toDigits_of_base_le (by omega) (by omega), hexNumber_concat,
          ih (n / 16) (by omega), hdigit _ (Nat.mod_lt n (by omega)), Nat.div_add_mod']

theorem hexNumber_hexDigits (width n : Nat) : hexNumber (hexDigits width n) = n := by
  have hzeros : ∀ k, hexNumber (List.replicate k '0') = 0 := by
    intro k
    induction k with
    | zero => rfl
    | succ k ih => rw [List.replicate_succ', hexNumber_concat, ih]; rfl
  calc hexNumber (hexDigits width n)
      = (Nat.toDigits 16 n).foldl (fun n c => n * 16 + (hexValue? c).getD 0)
          (hexNumber (List.replicate (width - (Nat.toDigits 16 n).length) '0')) :=
        List.foldl_append
    _ = hexNumber (Nat.toDigits 16 n) := by rw [hzeros, hexNumber]
    _ = n := hexNumber_toDigits n

theorem length_hexDigits {width n : Nat} (hwidth : 0 < width) (hn : n < 16 ^ width) :
    (hexDigits width n).length = width := by
  have hle := (Nat.length_toDigits_le_iff (b := 16) (by omega) hwidth).2 hn
  rw [hexDigits, List.length_append, List.length_replicate, Nat.sub_add_cancel hle]

/-! ## Characters of a text -/

/-- How many digits follow the mark of an escape by number. -/
def escapeWidth? : Char → Option Nat
  | 'x' => some 2
  | 'u' => some 4
  | 'U' => some 8
  | _ => none

/-- The character that a mark behind a backslash stands for. -/
def markedChar : Char → Char
  | 'n' => '\n'
  | 'r' => '\r'
  | 't' => '\t'
  | c => c

/-- The first character of a displayed text, and what follows it. -/
def unescape? : List Char → Option (Char × List Char)
  | [] => none
  | '\\' :: mark :: cs =>
      match escapeWidth? mark with
      | some width => some (Char.ofNat (hexNumber (cs.take width)), cs.drop width)
      | none => some (markedChar mark, cs)
  | c :: cs => some (c, cs)

/-- A character is written by a mark of its own, by its number or as it is. -/
theorem escapeChar_cases {q : Char} (hq : q = '\'' ∨ q = '"') (c : Char) :
    (∃ mark, escapeWidth? mark = none ∧ markedChar mark = c ∧ escapeChar q c = ['\\', mark]) ∨
      (∃ mark width, escapeWidth? mark = some width ∧ 0 < width ∧ c.toNat < 16 ^ width ∧
        escapeChar q c = '\\' :: mark :: hexDigits width c.toNat) ∨
      (c ≠ '\\' ∧ escapeChar q c = [c]) := by
  unfold escapeChar
  simp only []
  split
  · next hself =>
      refine .inl ⟨c, ?_, ?_, rfl⟩ <;> rcases hself with rfl | rfl
      · rcases hq with rfl | rfl <;> rfl
      · rfl
      · rcases hq with rfl | rfl <;> rfl
      · rfl
  next hself =>
  iterate 3
    split
    · next h => exact .inl ⟨_, by decide, by rw [h]; rfl, rfl⟩
  split
  · exact .inr (.inr ⟨fun h => hself (.inr h), rfl⟩)
  split
  · next h => exact .inr (.inl ⟨'x', 2, rfl, by omega, h, rfl⟩)
  split
  · next h => exact .inr (.inl ⟨'u', 4, rfl, by omega, h, rfl⟩)
  · have hvalid : c.toNat < 0xD800 ∨ 0xDFFF < c.toNat ∧ c.toNat < 0x110000 := c.valid
    exact .inr (.inl ⟨'U', 8, rfl, by omega, by omega, rfl⟩)

theorem unescape?_escapeChar {q : Char} (hq : q = '\'' ∨ q = '"') (c : Char) (rest : List Char) :
    unescape? (escapeChar q c ++ rest) = some (c, rest) := by
  rcases escapeChar_cases hq c with
    ⟨mark, hwidth, hmark, heq⟩ | ⟨mark, width, hwidth, hpos, hc, heq⟩ | ⟨hback, heq⟩
  · rw [heq, List.cons_append, List.singleton_append, unescape?, hwidth, hmark]
  · have hlength := length_hexDigits hpos hc
    rw [heq, List.cons_append, List.cons_append, unescape?, hwidth]
    simp only [List.take_left' hlength, List.drop_left' hlength, hexNumber_hexDigits,
      Char.ofNat_toNat]
  · rw [heq, List.singleton_append, unescape?]
    exact fun _ _ h _ => hback h

/-! ## Texts -/

theorem quoteFor_cases (cs : List Char) : quoteFor cs = '\'' ∨ quoteFor cs = '"' := by
  rw [quoteFor]
  split
  · exact .inr rfl
  · exact .inl rfl

theorem quoted_injective : Function.Injective quoted := by
  intro cs ds h
  obtain ⟨hquote, hbody⟩ := List.cons.inj (String.ofList_inj.1 h)
  rw [hquote] at hbody
  exact flatMap_injective_of_read rfl (unescape?_escapeChar (quoteFor_cases ds))
    (List.append_inj_left' hbody rfl)

end Display

/-! ## Values -/

namespace Value

open Stencil.Text

/-- Null, a truth value, a whole number that is not too long, or a text. -/
inductive IsAtom : Value → Prop
  | null : IsAtom .null
  | bool (b : Bool) : IsAtom (.bool b)
  | int {n : Int} : (Nat.toDigits 10 n.natAbs).length ≤ Numeral.maxDigits → IsAtom (.int n)
  | str (s : String) : IsAtom (.str s)

section

variable {v w : Value} {s : String}

theorem IsAtom.displayed (h : v.IsAtom) : ∃ s, v.display? = some s := by
  cases h with
  | int hlength => exact Numeral.exists_intText? hlength
  | _ => exact ⟨_, rfl⟩

theorem intText?_injective {n m : Int} (hn : Numeral.intText? n = some s)
    (hm : Numeral.intText? m = some s) : n = m := by
  obtain ⟨cs, hcs, rfl⟩ := Option.map_eq_some_iff.1 hn
  obtain ⟨ds, hds, heq⟩ := Option.map_eq_some_iff.1 hm
  rw [← String.ofList_inj.1 heq] at hcs
  have hvalue := Numeral.wholeValue?_writeInt? hcs
  rw [Numeral.wholeValue?_writeInt? hds] at hvalue
  exact (Option.some.inj hvalue).symm

/-- The sort that the first character of what is displayed tells. -/
def displayedShape (c : Char) : String :=
  if c = 'N' then "NoneType"
  else if c = 'T' ∨ c = 'F' then "bool"
  else if c = '-' ∨ c.isDigit then "int"
  else "str"

theorem display?_shape (hv : v.IsAtom) (h : v.display? = some s) :
    s.toList.head?.map displayedShape = some v.shape := by
  cases hv with
  | null => cases h; rfl
  | bool b => cases h; cases b <;> rfl
  | int _ =>
      obtain ⟨cs, hcs, rfl⟩ := Option.map_eq_some_iff.1 h
      obtain ⟨hne, hchars⟩ := Numeral.writeInt?_chars hcs
      obtain ⟨c, cs, rfl⟩ := List.exists_cons_of_ne_nil hne
      have hsign := hchars c List.mem_cons_self
      have hnumber : (c == '-' || c.isDigit) = true := by simpa using hsign
      have hother := ne_of_class (p := fun c => c == '-' || c.isDigit) hnumber
      have hnull := hother 'N' rfl
      have hbool : ¬(c = 'T' ∨ c = 'F') := not_or.2 ⟨hother 'T' rfl, hother 'F' rfl⟩
      rw [String.toList_ofList]
      simp only [List.head?_cons, Option.map_some, displayedShape, hnull, hbool, hsign,
        if_false, if_true, shape]
  | str t =>
      cases h
      rw [Display.quoted, String.toList_ofList]
      show some (displayedShape (Display.quoteFor t.toList)) = _
      rcases Display.quoteFor_cases t.toList with hq | hq <;> rw [hq] <;> rfl

theorem display?_injective (hv : v.IsAtom) (hw : w.IsAtom) (h : v.display? = w.display?) :
    v = w := by
  obtain ⟨s, hs⟩ := hw.displayed
  rw [hs] at h
  have hshape : v.shape = w.shape :=
    Option.some.inj ((display?_shape hv h).symm.trans (display?_shape hw hs))
  -- The sorts being the same, only like is left to be compared with like.
  cases hv with
  | null =>
      cases hw with
      | null => rfl
      | _ => simp [shape] at hshape
  | bool b =>
      cases hw with
      | bool c =>
          rw [← hs] at h
          cases b <;> cases c <;> simp [Value.display?] at h ⊢
      | _ => simp [shape] at hshape
  | int _ =>
      cases hw with
      | int _ => rw [intText?_injective h hs]
      | _ => simp [shape] at hshape
  | str s =>
      cases hw with
      | str t =>
          have hchars := Display.quoted_injective (Option.some.inj (h.trans hs.symm))
          rw [String.toList_inj.1 hchars]
      | _ => simp [shape] at hshape

end

end Value

end Stencil
