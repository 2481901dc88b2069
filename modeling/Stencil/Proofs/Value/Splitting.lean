import Stencil.Proofs.Text.Trim
import Stencil.Value.Literal

/-!
# Splitting at the commas outside of quotations

The splitter goes over a text one character at a time, and all that it
remembers are the quote that closes the quotation it is in and the argument
that it is reading. A text is carried over if the splitter comes out of it as
it went in, outside of quotations and still in the same argument (`Carried`).
Texts that are carried over come back from their join, each without the blanks
around it (`splitArguments_joinWith`); only an empty one at the end leaves no
trace.

Which texts are carried over is said by a grammar: whatever quotation opens is
closed by the quote that opened it, and no comma stands outside of quotations
(`Closed`). A quotation may hold commas and quotes of the other two sorts.
-/

namespace Stencil.Literal

open Stencil.Text

/-! ## One character at a time -/

theorem splitFrom_nil (quote : Option Char) (current : List Char) : splitFrom quote current [] =
    if current.isEmpty then [] else [trim current.reverse] := rfl

theorem splitFrom_outside (c : Char) (current cs : List Char) :
    splitFrom none current (c :: cs) =
      if isQuote c then splitFrom (some c) (c :: current) cs
      else if c = ',' then trim current.reverse :: splitFrom none [] cs
      else splitFrom none (c :: current) cs := rfl

theorem splitFrom_inside (q c : Char) (current cs : List Char) :
    splitFrom (some q) current (c :: cs) =
      if c = q then splitFrom none (c :: current) cs else splitFrom (some q) (c :: current) cs := rfl

theorem splitFrom_comma (current cs : List Char) :
    splitFrom none current (',' :: cs) = trim current.reverse :: splitFrom none [] cs := rfl

/-! ## Texts that the splitter carries over -/

/-- Wherever no quotation is open, the characters belong to the argument that
is being read, and no quotation is open behind them. -/
def Carried (cs : List Char) : Prop :=
  ∀ current rest, splitFrom none current (cs ++ rest) = splitFrom none (cs.reverse ++ current) rest

section

variable {cs ds : List Char}

theorem carried_nil : Carried [] := fun _ _ => rfl

theorem Carried.append (hcs : Carried cs) (hds : Carried ds) : Carried (cs ++ ds) := by
  intro current rest
  rw [List.append_assoc, hcs, hds, List.reverse_append, List.append_assoc]

theorem carried_char {c : Char} (hquote : isQuote c = false) (hcomma : c ≠ ',') : Carried [c] := by
  intro current rest
  rw [List.singleton_append, splitFrom_outside, hquote, if_neg Bool.false_ne_true, if_neg hcomma]
  rfl

theorem carried_plain (h : ∀ c ∈ cs, isQuote c = false ∧ c ≠ ',') : Carried cs := by
  induction cs with
  | nil => exact carried_nil
  | cons c cs ih =>
      obtain ⟨hquote, hcomma⟩ := h c List.mem_cons_self
      exact (carried_char hquote hcomma).append (ih fun d hd => h d (List.mem_cons_of_mem c hd))

theorem carried_blanks (h : ∀ c ∈ cs, isBlank c = true) : Carried cs := by
  refine carried_plain fun c hc => ?_
  have hne := ne_of_class (h c hc)
  simp [isQuote, hne '\'' (by decide), hne '"' (by decide), hne '\x60' (by decide),
    hne ',' (by decide)]

/-- Inside a quotation the characters up to its end are carried over. -/
theorem splitFrom_quoted {q : Char} (h : q ∉ cs) (current rest : List Char) :
    splitFrom (some q) current (cs ++ q :: rest) =
      splitFrom none (q :: (cs.reverse ++ current)) rest := by
  induction cs generalizing current with
  | nil =>
      rw [List.nil_append, splitFrom_inside, if_pos rfl]
      rfl
  | cons c cs ih =>
      rw [List.mem_cons, not_or] at h
      rw [List.cons_append, splitFrom_inside, if_neg (Ne.symm h.1), ih h.2]
      simp

theorem carried_quoted {q : Char} (hq : isQuote q = true) (h : q ∉ cs) :
    Carried (q :: (cs ++ [q])) := by
  intro current rest
  rw [List.cons_append, splitFrom_outside, if_pos hq, List.append_assoc, List.singleton_append,
    splitFrom_quoted h]
  simp

end

/-! ## Joined texts -/

/-- Texts that are carried over come back from their join, trimmed. -/
theorem splitArguments_joinWith {parts : List (List Char)} (hparts : ∀ part ∈ parts, Carried part)
    (hlast : ∀ part ∈ parts.getLast?, part ≠ []) :
    splitArguments (joinWith [','] parts) = parts.map trim := by
  rw [splitArguments]
  induction parts with
  | nil => rfl
  | cons part parts ih =>
      obtain ⟨hpart, hrest⟩ := List.forall_mem_cons.1 hparts
      cases parts with
      | nil =>
          have hread := hpart [] []
          rw [List.append_nil, List.append_nil] at hread
          rw [joinWith, hread, splitFrom_nil, List.isEmpty_reverse, List.isEmpty_eq_false_iff.2
            (hlast part rfl), if_neg Bool.false_ne_true, List.reverse_reverse]
          rfl
      | cons next parts =>
          have hjoin : joinWith [','] (part :: next :: parts) =
              part ++ ',' :: joinWith [','] (next :: parts) := by simp [joinWith]
          rw [hjoin, hpart, List.append_nil, splitFrom_comma, List.reverse_reverse,
            ih hrest hlast]
          rfl

/-! ## Closed texts -/

/-- A text in which every quotation is closed by the quote that opened it, and
in which no comma stands outside of quotations. -/
inductive Closed : List Char → Prop
  | nil : Closed []
  | plain {c : Char} {cs : List Char} : isQuote c = false → c ≠ ',' → Closed cs → Closed (c :: cs)
  | quotation {q : Char} {inside cs : List Char} : isQuote q = true → q ∉ inside → Closed cs →
      Closed (q :: (inside ++ q :: cs))

theorem Closed.carried {cs : List Char} (h : Closed cs) : Carried cs := by
  induction h with
  | nil => exact carried_nil
  | plain hquote hcomma _ ih => exact (carried_char hquote hcomma).append ih
  | @quotation q inside cs hquote hinside _ ih =>
      have happend : Carried (q :: (inside ++ [q]) ++ cs) :=
        (carried_quoted hquote hinside).append ih
      simpa using happend

/-- A closed text without blanks at its ends, and the blanks that are written
in front of it and behind it. -/
structure Segment where
  chars : List Char
  closed : Closed chars
  begins : ∀ c ∈ chars.head?, isBlank c = false
  ends : ∀ c ∈ chars.getLast?, isBlank c = false
  before : List Char
  after : List Char
  before_blank : ∀ c ∈ before, isBlank c = true
  after_blank : ∀ c ∈ after, isBlank c = true

namespace Segment

def print (s : Segment) : List Char := s.before ++ s.chars ++ s.after

theorem carried_print (s : Segment) : Carried s.print :=
  ((carried_blanks s.before_blank).append s.closed.carried).append (carried_blanks s.after_blank)

theorem trim_print (s : Segment) : trim s.print = s.chars :=
  trimWhile_padded s.before_blank s.after_blank s.begins s.ends

/-- Splitting undoes joining: segments that are joined by commas come back
without the blanks around them, the empty ones in front of others included. -/
theorem splitArguments_segments (ss : List Segment) (hlast : ∀ s ∈ ss.getLast?, s.chars ≠ []) :
    splitArguments (joinWith [','] (ss.map print)) = ss.map (·.chars) := by
  rw [splitArguments_joinWith, List.map_map]
  · exact List.map_congr_left fun s _ => s.trim_print
  · intro part hpart
    obtain ⟨s, _, rfl⟩ := List.mem_map.1 hpart
    exact s.carried_print
  · intro part hpart hnil
    rw [List.getLast?_map] at hpart
    obtain ⟨s, hs, rfl⟩ := Option.map_eq_some_iff.1 hpart
    rw [print, List.append_eq_nil_iff, List.append_eq_nil_iff] at hnil
    exact hlast s hs hnil.1.2

/-- A comma and a quote of another sort inside a quotation, a quotation that
something follows, and empty segments in front and in the middle. -/
theorem splitArguments_segments_quoted :
    (∀ s ∈ ["", "'a, \"b'", "", "`x`y"].getLast?, s ≠ "") ∧
      splitArguments " ,\t'a, \"b' ,, `x`y".toList =
        ["".toList, "'a, \"b'".toList, "".toList, "`x`y".toList] := by
  have hblank : ∀ {cs : List Char}, cs.all isBlank = true → ∀ c ∈ cs, isBlank c = true :=
    fun h => List.all_eq_true.1 h
  have hquoted : Closed ('\'' :: ("a, \"b".toList ++ ['\''])) :=
    .quotation (by decide) (by decide) .nil
  have hfollowed : Closed ('\x60' :: (['x'] ++ ['\x60', 'y'])) :=
    .quotation (by decide) (by decide) (.plain (by decide) (by decide) .nil)
  let gap : Segment := ⟨[], .nil, by simp, by simp, [], [' '], hblank rfl, hblank rfl⟩
  let quoted : Segment := ⟨_, hquoted, by simp [isBlank], by simp [isBlank], ['\t'], [' '],
    hblank rfl, hblank rfl⟩
  let hollow : Segment := ⟨[], .nil, by simp, by simp, [], [], hblank rfl, hblank rfl⟩
  let followed : Segment := ⟨_, hfollowed, by simp [isBlank], by simp [isBlank], [' '], [],
    hblank rfl, hblank rfl⟩
  exact ⟨by decide, splitArguments_segments [gap, quoted, hollow, followed] (by simp [followed])⟩

end Segment

end Stencil.Literal
