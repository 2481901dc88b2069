import Stencil.CommandLine.Assignment
import Stencil.Proofs.Template.Operand
import Stencil.Proofs.Template.OperatorRun
import Stencil.Proofs.Template.PrintedVariables
import Stencil.Proofs.Value.Written

/-!
# A literal means one value wherever it stands

The default of a variable tag, the right operand of a condition and the right
side of an assignment are cut out of their surroundings by different readers:
an expression that knows quotes, one that takes the rest of a line, and the
first equals sign. For every literal that is written (`Literal.Written`) each
of them hands exactly its characters on, so the same value is read in all
three places, whatever a text in quotes looks like.
-/

namespace Stencil.Printed

open Stencil.Text Stencil.Regex Stencil.TagPattern Stencil.Literal

section

variable {lit : List Char} {v : Value}

/-! ## What a literal is to each reader -/

theorem defaultText_written (h : Written lit v) : DefaultText ('=' :: lit) := by
  rcases h.chars with ⟨inner, rfl, hquote, hline⟩ | ⟨_, hchars⟩
  · exact .quoted (.inl rfl) hquote hline
  · refine .bare (fun c hc => isBareChar_notMem (hchars c hc) (by decide)) fun hin => ?_
    exact absurd (hchars '%' (hin.subset (by decide))) (by decide)

theorem rightOperand_written (h : Written lit v) : Condition.RightOperand lit := by
  have hends := trimWhile_ends isBlank lit
  rw [← trim, trim_written h] at hends
  obtain ⟨c, tail, rfl, hc⟩ := h.head
  refine ⟨by simp, h.inLine, ?_, hends.2⟩
  rintro d ⟨⟩
  refine ⟨hends.1 c rfl, ?_⟩
  rcases hc with rfl | hc
  · decide
  · exact isBareChar_notMem hc (by decide)

theorem operand_written (h : Written lit v) (args : Arguments) :
    Condition.operand (String.ofList lit) args = .ok v := by
  obtain ⟨c, tail, rfl, hc⟩ := h.head
  have hhead : c ∉ ['!', '$'] := by
    rcases hc with rfl | hc
    · decide
    · exact isBareChar_notMem hc (by decide)
  simp only [List.mem_cons, List.not_mem_nil, or_false, not_or] at hhead
  rw [Condition.operand_unmarked (by simpa using hhead.1),
    Condition.plainOperand_literal (by simpa using hhead.2) (read_written h) h.notStructured]

end

/-! ## A tag with a default -/

section

variable {w : Word} {text : List Char}

/-- The text of a variable tag with a default. -/
def defaultTag (w : Word) (text : List Char) : List Char :=
  ['<', '%', ' '] ++ w.chars ++ (text ++ [' ', '%', '>'])

/-- The only tag of that text. -/
def defaultVariable (w : Word) (text : List Char) : Variable where
  text := String.ofList (defaultTag w text)
  start := 0
  stop := (defaultTag w text).length
  name := String.ofList w.chars
  default := some (String.ofList text)
  filter := none
  filterName := none
  filterArgs := none

theorem DefaultText.head (h : DefaultText text) : ∃ cs, text = '=' :: cs := by
  cases h with
  | quoted => exact ⟨_, rfl⟩
  | bare => exact ⟨_, rfl⟩

theorem scan_defaultTag (hfree : w.chars ∉ reservedWords) (htext : DefaultText text) :
    Variable.scan .standard (defaultTag w text) = .ok [defaultVariable w text] := by
  have hplace : standardVariable.regex.hasGroup "name" = true := by decide
  refine scan_named [("default", text)] hfree ?_ (fun r hr => ?_) ?_
  · obtain ⟨cs, rfl⟩ := htext.head
    rintro c ⟨⟩
    decide
  · have hcloser : (r.marked text.length (("default", text) :: r.groups)).rest =
        [' ', '%', '>'] := by
      rw [Place.marked_rest, hr, List.drop_left]
    refine behindName_default htext hr ?_ ?_
    · rintro c ⟨⟩
      exact .inl rfl
    · rw [behindDefault_closer hcloser, Place.marked_marked, List.length_append]
      rfl
  · rw [Variable.ofMatch, if_pos hplace]
    simp [Match.group?, defaultVariable, defaultTag, List.lookup_cons]

end

/-! ## The three places -/

section

variable {w : Word} {lit : List Char} {v : Value}

theorem defaultValue_written (h : Written lit v) :
    (defaultVariable w ('=' :: lit)).defaultValue = .ok v := by
  rw [Variable.defaultValue, defaultVariable]
  simp only [String.toList_ofList, List.drop_succ_cons, List.drop_zero]
  rw [trim_written h, read_written h]

theorem Word.trim (w : Word) : Text.trim w.chars = w.chars :=
  trimWhile_eq_self
    (fun c hc => isNameChar_notBlank (w.plain c (List.mem_of_mem_head? hc)))
    (fun c hc => isNameChar_notBlank (w.plain c (List.mem_of_getLast? hc)))

theorem readAll_written (h : Written lit v) :
    Assignment.readAll [String.ofList (w.chars ++ '=' :: lit)] =
      .ok [(String.ofList w.chars, v)] := by
  have hname : ∀ c ∈ w.chars, (c != '=') = true := by
    intro c hc
    rw [bne_iff_ne]
    rintro rfl
    exact absurd (w.plain _ hc) (by decide)
  have htake : (w.chars ++ '=' :: lit).takeWhile (· != '=') = w.chars := by
    rw [List.takeWhile_append_of_pos hname]
    simp
  have hempty : w.chars.isEmpty = false := List.isEmpty_eq_false_iff.2 w.nonempty
  have hread : Assignment.read (String.ofList (w.chars ++ '=' :: lit)) =
      .ok (String.ofList w.chars, v) := by
    rw [Assignment.read]
    simp only [String.toList_ofList, htake, List.drop_left, hempty, Bool.false_eq_true, if_false,
      w.trim, trim_written h, read_written h, ok_bind]
  rw [Assignment.readAll, List.mapM_cons, hread, ok_bind, List.mapM_nil]
  rfl

/-- A literal is the same value as the default of a variable tag, as the right
operand of a condition and on the right side of an assignment. -/
theorem literal_everywhere {x : List Char} {u : Value} {args : Arguments} (hlit : Written lit v)
    (hfree : w.chars ∉ reservedWords) (hx : Condition.BareOperand x)
    (hfind : args.find? (String.ofList x) = some u) (hplain : u.isStructured = false) :
    (Variable.scan .standard (defaultTag w ('=' :: lit)) = .ok [defaultVariable w ('=' :: lit)] ∧
      (defaultVariable w ('=' :: lit)).defaultValue = .ok v) ∧
    Condition.evaluateText (String.ofList (Condition.identicalText ('$' :: x) lit)) args =
      .ok (u.strictEquals v) ∧
    Assignment.readAll [String.ofList (w.chars ++ '=' :: lit)] =
      .ok [(String.ofList w.chars, v)] := by
  have hleft : Condition.operand (String.ofList ('$' :: x)) args = .ok u := by
    rw [Condition.operand_unmarked (by simp), Condition.plainOperand_given hfind hplain]
  refine ⟨⟨scan_defaultTag hfree (defaultText_written hlit), defaultValue_written hlit⟩, ?_,
    readAll_written hlit⟩
  exact Condition.evaluateText_identical hx.dollar.left (rightOperand_written hlit) hleft
    (operand_written hlit args)

/-- A text that looks like a tag and a comparison. -/
theorem literal_everywhere_text :
    Written "\"<% a|b,c %> == '1'\"".toList (.str "<% a|b,c %> == '1'") ∧
      Variable.scan .standard "<% n=\"<% a|b,c %> == '1'\" %>".toList =
        .ok [⟨"<% n=\"<% a|b,c %> == '1'\" %>", 0, 28, "n", some "=\"<% a|b,c %> == '1'\"", none,
          none, none⟩] ∧
      Condition.evaluateText "$x === \"<% a|b,c %> == '1'\"" [("x", .null)] = .ok false ∧
      Assignment.readAll ["n=\"<% a|b,c %> == '1'\""] = .ok [("n", .str "<% a|b,c %> == '1'")] := by
  have hlit : Written ('"' :: ("<% a|b,c %> == '1'".toList ++ ['"'])) (.str "<% a|b,c %> == '1'") :=
    .text (by decide) (by decide)
  have hfree : (⟨['n'], by decide, List.all_eq_true.1 rfl⟩ : Word).chars ∉ reservedWords := by
    decide
  have hx : Condition.BareOperand ['x'] :=
    ⟨by simp, by simp [isBlank, Condition.operatorChars], by simp⟩
  have hfind : Arguments.find? [("x", .null)] (String.ofList ['x']) = some .null := rfl
  have heverywhere := literal_everywhere hlit hfree hx hfind rfl
  exact ⟨hlit, heverywhere.1.1, heverywhere.2.1, heverywhere.2.2⟩

end

end Stencil.Printed
