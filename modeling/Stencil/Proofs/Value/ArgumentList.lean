import Stencil.Proofs.Chaining
import Stencil.Proofs.Value.Splitting
import Stencil.Proofs.Value.Written

/-!
# Lists of arguments

The arguments of a filter are written as literals with commas between them
and any number of spaces around these. A literal in quotes opens with the
quote that closes it, so splitting carries over whatever it holds, and the
literals come back. Each of them is read as the value it was written for:
trimming finds only the spaces, and a text that neither begins nor ends with a
quote loses nothing to the second round of unquoting.
-/

namespace Stencil.Literal

open Stencil.Text

/-- A text that is no worse for standing among the arguments of a filter: no tag
ends in it, and it neither begins nor ends with a quote. -/
structure SafeText (cs : List Char) : Prop where
  inside : ¬ ['%', '>'] <:+: cs
  begins : ∀ c ∈ cs.head?, isQuote c = false
  ends : ∀ c ∈ cs.getLast?, isQuote c = false

/-- An argument with the spaces in front of it and behind it. -/
structure Argument where
  before : Nat
  literal : List Char
  value : Value
  after : Nat
  written : Written literal value
  safe : ∀ s, value = .str s → SafeText s.toList

def Argument.print (a : Argument) : List Char :=
  List.replicate a.before ' ' ++ a.literal ++ List.replicate a.after ' '

/-- The arguments as they stand behind the colon of a filter. -/
def printArguments : List Argument → List Char
  | [] => []
  | [a] => a.print
  | a :: b :: as => a.print ++ ',' :: printArguments (b :: as)

/-! ## Splitting -/

section

variable {cs : List Char} {v : Value}

theorem Written.carried (h : Written cs v) : Carried cs := by
  rcases h.chars with ⟨inner, rfl, hquote, _⟩ | ⟨_, hchars⟩
  · exact carried_quoted (by decide) hquote
  · refine carried_plain fun c hc => ?_
    have hout : c ∉ ['\'', '"', '\x60', ','] := isBareChar_notMem (hchars c hc) (by decide)
    simp only [List.mem_cons, List.not_mem_nil, or_false, not_or] at hout
    simp [isQuote, hout]

end

/-! ## Arguments -/

section

variable (a : Argument) (as : List Argument)

theorem blank_of_mem_spaces (n : Nat) : ∀ c ∈ List.replicate n ' ', isBlank c = true := by
  intro c hc
  rw [List.eq_of_mem_replicate hc]
  decide

theorem Argument.carried : Carried a.print :=
  ((carried_blanks (blank_of_mem_spaces _)).append a.written.carried).append
    (carried_blanks (blank_of_mem_spaces _))

theorem Argument.trim_print : trim a.print = a.literal := by
  have hends := trimWhile_ends isBlank a.literal
  rw [← trim, trim_written a.written] at hends
  exact trimWhile_padded (blank_of_mem_spaces _) (blank_of_mem_spaces _) hends.1 hends.2

theorem Argument.print_ne_nil : a.print ≠ [] := by
  obtain ⟨c, tail, hcs, _⟩ := a.written.head
  simp [Argument.print, hcs]

theorem printArguments_eq_joinWith : printArguments as = joinWith [','] (as.map (·.print)) := by
  induction as using printArguments.induct with
  | case1 => rfl
  | case2 a => rfl
  | case3 a b as ih =>
      rw [printArguments, ih]
      simp [joinWith]

/-- Splitting gives the literals back. -/
theorem splitArguments_print : splitArguments (printArguments as) = as.map (·.literal) := by
  rw [printArguments_eq_joinWith, splitArguments_joinWith, List.map_map]
  · exact List.map_congr_left fun a _ => a.trim_print
  · intro part hpart
    obtain ⟨a, _, rfl⟩ := List.mem_map.1 hpart
    exact a.carried
  · intro part hpart
    obtain ⟨a, _, rfl⟩ := List.mem_map.1 (List.mem_of_getLast? hpart)
    exact a.print_ne_nil

theorem Argument.inLine : '\n' ∉ a.print := by
  have hline := a.written.inLine
  simp [Argument.print, hline]

theorem printArguments_inLine : '\n' ∉ printArguments as := by
  induction as using printArguments.induct with
  | case1 => simp [printArguments]
  | case2 a => exact a.inLine
  | case3 a b as ih =>
      rw [printArguments, List.mem_append, not_or]
      exact ⟨a.inLine, by simpa using ih⟩

/-- An argument is read as the value it was written for. -/
theorem Argument.read : readArgument a.literal = .ok a.value := by
  have hsafe := a.safe
  rw [readArgument, trim_written a.written, read_written a.written, ok_bind]
  cases hvalue : a.value with
  | str s =>
      obtain ⟨_, hfirst, hlast⟩ := hsafe s hvalue
      show Except.ok (Value.ofChars (trimWhile isQuote s.toList)) = _
      rw [trimWhile_eq_self hfirst hlast, Value.ofChars, String.ofList_toList]
  | _ => rfl

theorem readArguments_print :
    (splitArguments (printArguments as)).mapM readArgument = .ok (as.map (·.value)) := by
  rw [splitArguments_print, List.mapM_map]
  exact mapM_eq_ok_map fun a _ => a.read

end

end Stencil.Literal
