import Stencil.Proofs.Template.PrintedTags
import Stencil.Proofs.Template.PrintedVariables
import Stencil.Proofs.Value.ArgumentList

/-!
# The arguments of a filter arrive as they are written

The expression for variable tags takes as little as possible for the
arguments of a filter, so they end where the tag could end first. Literals
that do not hold the end of a tag cannot make one together with the commas
and spaces between them, so the tag is found whole, and its arguments are the
values that the literals were written for.
-/

namespace Stencil.Printed

open Stencil.Text Stencil.Regex Stencil.TagPattern Stencil.Literal

/-! ## No tag ends inside the arguments -/

section

variable {xs ys : List Char}

theorem inside_append (hxs : ¬ closer <:+: xs) (hys : ¬ closer <:+: ys)
    (hhead : ys.head? ≠ some '>') : ¬ closer <:+: xs ++ ys := by
  intro h
  rcases pair_infix_append h with h | h | ⟨_, h⟩
  · exact hxs h
  · exact hys h
  · exact hhead h

theorem inside_spaces (n : Nat) : ¬ closer <:+: List.replicate n ' ' := by
  intro h
  have hmem := List.eq_of_mem_replicate (h.subset (List.mem_cons_self : '%' ∈ closer))
  exact absurd hmem (by decide)

theorem spaces_head (n : Nat) : (List.replicate n ' ').head? ≠ some '>' := by
  intro h
  exact absurd (List.eq_of_mem_replicate (List.mem_of_mem_head? h)) (by decide)

theorem inside_cons {c : Char} (hc : c ≠ '%') (hxs : ¬ closer <:+: xs) : ¬ closer <:+: c :: xs := by
  intro h
  rcases List.infix_cons_iff.1 h with ⟨tail, htail⟩ | h
  · cases htail
    exact hc rfl
  · exact hxs h

theorem literal_inside {lit : List Char} {v : Value} (h : Written lit v)
    (hsafe : ∀ s, v = .str s → SafeText s.toList) : ¬ closer <:+: lit := by
  cases h with
  | null => decide
  | truth b => cases b <;> decide
  | whole h =>
      intro hin
      rcases (Numeral.writeInt?_chars h).2 '%' (hin.subset (by decide)) with hc | hc
      · cases hc
      · cases hc
  | @text cs _ _ =>
      have htext := (hsafe (String.ofList cs) rfl).inside
      rw [String.toList_ofList] at htext
      exact inside_cons (by decide) (inside_append htext (by decide) (by decide))

theorem argument_inside (a : Argument) : ¬ closer <:+: a.print := by
  obtain ⟨c, tail, hcs, hc⟩ := a.written.head
  have hhead : a.literal.head? ≠ some '>' := by
    rw [hcs]
    rintro ⟨⟩
    rcases hc with hc | hc
    · exact absurd hc (by decide)
    · exact absurd hc (by decide)
  have hinside := literal_inside a.written a.safe
  exact inside_append (inside_append (inside_spaces _) hinside hhead) (inside_spaces _)
    (spaces_head _)

theorem printArguments_inside (as : List Argument) : ¬ closer <:+: printArguments as := by
  induction as using printArguments.induct with
  | case1 => decide
  | case2 a => exact argument_inside a
  | case3 a b as ih =>
      exact inside_append (argument_inside a) (inside_cons (by decide) ih) (by simp)

end

/-! ## The tag -/

section

variable {w f : Word}

/-- The text of a variable tag with a filter. -/
def filterTag (w f : Word) (args : List Char) : List Char :=
  ['<', '%', ' '] ++ w.chars ++ (filterText f (some args) ++ [' ', '%', '>'])

/-- The only tag of that text. -/
def filterVariable (w f : Word) (args : List Char) : Variable where
  text := String.ofList (filterTag w f args)
  start := 0
  stop := (filterTag w f args).length
  name := String.ofList w.chars
  default := none
  filter := some (String.ofList (filterText f (some args)))
  filterName := some (String.ofList f.chars)
  filterArgs := some (String.ofList args)

theorem scan_filterTag {args : List Char} (hfree : w.chars ∉ reservedWords) (hline : '\n' ∉ args)
    (hinside : ¬ closer <:+: args) :
    Variable.scan .standard (filterTag w f args) = .ok [filterVariable w f args] := by
  have hplace : standardVariable.regex.hasGroup "name" = true := by decide
  refine scan_named (filterGroups f (some args)) hfree ?_ (fun r hr => ?_) ?_
  · rintro c ⟨⟩
    decide
  · have hhead : r.rest.head? ≠ some '=' := by
      rw [hr]
      rintro ⟨⟩
    rw [behindName_none hhead, behindDefault_filterText (fun a ha => ?_) hr, List.length_append]
    · rfl
    · cases ha
      exact ⟨hline, hinside⟩
  · rw [Variable.ofMatch, if_pos hplace]
    simp [Match.group?, filterVariable, filterTag, filterGroups, List.lookup_cons]

theorem arguments_print (as : List Argument) :
    (filterVariable w f (printArguments as)).arguments = .ok (as.map (·.value)) := by
  rw [Variable.arguments, filterVariable]
  simp only [String.toList_ofList, readArguments_print]

/-- A tag with a filter is found whole, and the arguments of the filter are the
values that were written. -/
theorem filterTag_arguments (hfree : w.chars ∉ reservedWords) (as : List Argument) :
    Variable.scan .standard (filterTag w f (printArguments as)) =
        .ok [filterVariable w f (printArguments as)] ∧
      (filterVariable w f (printArguments as)).arguments = .ok (as.map (·.value)) :=
  ⟨scan_filterTag hfree (printArguments_inLine as) (printArguments_inside as), arguments_print as⟩

/-- A number, and a text that holds a comma, a bar and a quote of the other
sort. -/
theorem filterTag_arguments_two :
    ∃ t : Variable, Variable.scan .standard "<% v|f:-7 ,\"a,b|c'd\" %>".toList = .ok [t] ∧
      t.stop = 23 ∧ t.filterName = some "f" ∧ t.arguments = .ok [.int (-7), .str "a,b|c'd"] := by
  have hpercent : '%' ∉ "a,b|c'd".toList := by decide
  have hsafe : SafeText "a,b|c'd".toList :=
    ⟨fun h => hpercent (h.subset (by simp)), by simp [isQuote], by simp [isQuote]⟩
  let number : Argument := ⟨0, ['-', '7'], .int (-7), 1, .whole (by decide), by rintro s ⟨⟩⟩
  let text : Argument := ⟨0, '"' :: ("a,b|c'd".toList ++ ['"']), .str "a,b|c'd", 0,
    .text (by decide) (by decide), by rintro s ⟨⟩; exact hsafe⟩
  have hfree : (⟨['v'], by decide, List.all_eq_true.1 rfl⟩ : Word).chars ∉ reservedWords := by
    decide
  obtain ⟨hscan, harguments⟩ := filterTag_arguments
    (f := ⟨['f'], by decide, List.all_eq_true.1 rfl⟩) hfree [number, text]
  exact ⟨_, hscan, rfl, rfl, harguments⟩

end

end Stencil.Printed
