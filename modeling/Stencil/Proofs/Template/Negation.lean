import Stencil.Proofs.Template.Operand
import Stencil.Proofs.Template.OperatorRun

/-!
# Marks in front of an operand

What any number of exclamation marks in front of a named argument makes of a
condition. A condition drops one mark of its own and an operand one more, and
nothing drops a third. So on the left two marks negate twice, but with more
of them the first two are an operand by themselves and the others are taken
for an operator. On the right the second mark is already part of a literal
text, and the argument is not asked for at all.
-/

namespace Stencil

/-- Truth values are the same only if they are equal. -/
theorem Value.strictEquals_bool (a b : Bool) :
    (Value.bool a).strictEquals (.bool b) = (a == b) := by
  cases a <;> cases b <;>
    simp [strictEquals, sameShape, same, sameScalar, shape, number?, Number.compare?]

namespace Condition

open Stencil.Regex Stencil.Text Stencil.TagPattern

def marks (k : Nat) : List Char := List.replicate k '!'

/-- The truth value of a value turned over so many times. -/
def negations : Nat → Value → Value
  | 0, v => v
  | k + 1, v => .bool (!(negations k v).isTruthy)

/-! ## Marks that are no operator -/

theorem marks_run {k : Nat} (hk : 1 ≤ k) : OperatorRun (marks k) := by
  refine ⟨?_, fun c hc => ?_⟩
  · rw [marks]
    simp
    omega
  · rw [List.eq_of_mem_replicate hc]
    decide

theorem operator_notMarks (op : Comparison) : ∃ c ∈ op.toText.toList, c ≠ '!' := by
  cases op <;> simp [Comparison.toText]

theorem marks_undivided (k : Nat) : Undivided (marks k) := by
  intro op back heq
  obtain ⟨c, hc, hne⟩ := operator_notMarks op
  refine hne (List.eq_of_mem_replicate (n := k) ?_)
  rw [← marks, heq]
  exact List.mem_append_left _ hc

theorem marks_unknown {k : Nat} (op : Comparison) : marks k ≠ op.toText.toList := by
  intro heq
  obtain ⟨c, hc, hne⟩ := operator_notMarks op
  rw [← heq] at hc
  exact hne (List.eq_of_mem_replicate hc)

/-! ## Reading -/

section

variable {left tail : List Char}

/-- A mark in front of what the left operand may be is that of the condition. -/
theorem read?_negated (groups : List (String × List Char)) (hleft : LeftText left)
    (hlast : ∀ d ∈ (left ++ tail).getLast?, isBlank d = false)
    (hbehind : ∀ r : Place, r.rest = tail →
      behindLeft r = some (r.marked tail.length (groups ++ r.groups)))
    (hgroups : groups.lookup "left" = none ∧ groups.lookup "negation" = none) :
    read? ('!' :: (left ++ tail)) = some ⟨String.ofList left, true,
      (groups.lookup "operator").map String.ofList,
      (groups.lookup "right").map String.ofList⟩ := by
  rw [← String.toList_ofList (l := left)] at hleft hlast
  have hread := read?_fronted (c := ⟨String.ofList left, true, none, none⟩)
    ⟨hleft, fun h => absurd h (by simp)⟩ hlast hbehind hgroups 0 0
  simpa [mark, spaces] using hread

theorem read?_negated_alone (hleft : LeftText left)
    (hlast : ∀ d ∈ left.getLast?, isBlank d = false) :
    read? ('!' :: left) = some ⟨String.ofList left, true, none, none⟩ := by
  have hlast' : ∀ d ∈ (left ++ []).getLast?, isBlank d = false := by rwa [List.append_nil]
  have hread := read?_negated [] hleft hlast' (fun r hr => behindLeft_end hr) ⟨rfl, rfl⟩
  rwa [List.append_nil] at hread

theorem read?_negated_identical {right : List Char} (hleft : LeftText left)
    (hright : RightOperand right) : read? ('!' :: identicalText left right) =
      some ⟨String.ofList left, true, some Comparison.identical.toText,
        some (String.ofList right)⟩ := by
  have hread := read?_negated
    [("right", right), ("operator", Comparison.identical.toText.toList)] hleft
    (identicalText_last hright)
    (fun r hr => by rw [behindLeft_comparison .identical hright hr, hr]; rfl) ⟨rfl, rfl⟩
  simpa [List.lookup_cons, identicalText] using hread

/-- Behind two marks further ones are an operator. -/
theorem read?_overmarked {k : Nat} {body : List Char} (hk : 1 ≤ k) (hbody : BehindRun body)
    (hne : body ≠ []) (hline : '\n' ∉ body) : read? (marks (k + 2) ++ body) =
      some ⟨"!", true, some (String.ofList (marks k)), some (String.ofList body)⟩ := by
  have hops := marks_run hk
  have hlast : ∀ d ∈ (['!'] ++ (marks k ++ body)).getLast?, isBlank d = false := by
    rw [List.getLast?_append_of_ne_nil _ (by simp [hne])]
    exact hops.append_ends hbody
  have hread := read?_negated [("right", body), ("operator", marks k)] (.marked (by simp)) hlast
    (fun r hr => by
      rw [behindLeft_whole (n := 0) hops hbody (marks_undivided k) marks_unknown hne hline hr, hr]
      rfl) ⟨rfl, rfl⟩
  simpa [List.lookup_cons, marks, List.replicate_succ] using hread

end

/-! ## Evaluating -/

section

variable {name : List Char} {args : Arguments} {v : Value} {k : Nat}

theorem operand_marks (hfind : args.find? (String.ofList name) = some v)
    (hplain : v.isStructured = false) (hk : k ≤ 1) :
    operand (String.ofList (marks k ++ '$' :: name)) args = .ok (negations k v) := by
  have hgiven : plainOperand ('$' :: name) args = .ok v := plainOperand_given hfind hplain
  obtain rfl | rfl : k = 0 ∨ k = 1 := by omega
  · rw [marks, List.replicate_zero, List.nil_append, operand_unmarked (by simp), hgiven]
    rfl
  · exact operand_marked hgiven

/-- Behind a second mark no argument is asked for. -/
theorem operand_overmarked (hk : 2 ≤ k) :
    operand (String.ofList (marks k ++ '$' :: name)) args = .ok (.bool false) := by
  obtain ⟨j, rfl⟩ : ∃ j, k = j + 2 := ⟨k - 2, by omega⟩
  rw [marks, List.replicate_succ, List.replicate_succ]
  exact operand_markedRun (by decide)

theorem leftText_marks (h : BareOperand name) (hk : k ≤ 1) :
    LeftText (marks k ++ '$' :: name) := by
  obtain rfl | rfl : k = 0 ∨ k = 1 := by omega
  · exact .operand h.dollar.left
  · exact .marked h.dollar.plain

theorem marks_last (h : BareOperand name) :
    ∀ d ∈ (marks k ++ '$' :: name).getLast?, isBlank d = false := by
  intro d hd
  rw [List.getLast?_append_of_ne_nil _ (by simp)] at hd
  exact (h.dollar.plain d (List.mem_of_getLast? hd)).1

theorem rightOperand_marks (h : BareOperand name) : RightOperand (marks k ++ '$' :: name) := by
  have hchars : ∀ c ∈ marks k ++ '$' :: name, c = '!' ∨ isBlank c = false ∧ c ∉ operatorChars := by
    intro c hc
    rcases List.mem_append.1 hc with hc | hc
    · exact .inl (List.eq_of_mem_replicate hc)
    · exact .inr (h.dollar.plain c hc)
  refine ⟨by simp, fun hmem => ?_, fun c hc => ?_, marks_last h⟩
  · rcases hchars _ hmem with hbad | ⟨hbad, _⟩
    · exact absurd hbad (by decide)
    · exact absurd hbad (by decide)
  · rcases hchars c (List.mem_of_mem_head? hc) with rfl | ⟨hblank, hchar⟩
    · decide
    · exact ⟨hblank, not_comparing hchar⟩

theorem evaluateText_marked (hname : BareOperand name)
    (hfind : args.find? (String.ofList name) = some v) (hplain : v.isStructured = false)
    (hk : k ≤ 1) : evaluateText (String.ofList (marks (k + 1) ++ '$' :: name)) args =
      .ok (negations (k + 1) v).isTruthy := by
  have hread := read?_negated_alone (leftText_marks hname hk) (marks_last hname)
  rw [marks, List.replicate_succ, List.cons_append, ← marks, evaluateText_of_read? hread,
    holds_alone rfl, operand_marks hfind hplain hk, ok_bind, counted_negated rfl, negations]

theorem evaluateText_marked_identical {right : List Char} {w : Value} (hname : BareOperand name)
    (hfind : args.find? (String.ofList name) = some v) (hplain : v.isStructured = false)
    (hright : RightOperand right) (hvalue : operand (String.ofList right) args = .ok w)
    (hk : k ≤ 1) :
    evaluateText (String.ofList (identicalText (marks (k + 1) ++ '$' :: name) right)) args =
      .ok ((negations (k + 1) v).strictEquals w) := by
  have hread := read?_negated_identical (leftText_marks hname hk) hright
  rw [marks, List.replicate_succ, List.cons_append, ← marks, identicalText, List.cons_append,
    ← identicalText, evaluateText_of_read? hread, holds_compared rfl rfl hvalue,
    operand_marks hfind hplain hk, ok_bind, counted_negated rfl, ← negations, Comparison.holds]

/-- An operator of marks is refused, whatever stands behind it. -/
theorem evaluateText_overmarked {body : List Char} (hk : 1 ≤ k) (hbody : BehindRun body)
    (hne : body ≠ []) (hline : '\n' ∉ body) :
    evaluateText (String.ofList (marks (k + 2) ++ body)) args =
      .error (.unsupportedOperator (String.ofList (marks k))) := by
  have hleft : operand (String.ofList ['!']) args = .ok (.bool true) :=
    operand_marked (v := .str "") rfl
  rw [evaluateText_of_read? (read?_overmarked hk hbody hne hline),
    holds_unsupported rfl (ofText?_eq_none marks_unknown)]
  show operand (String.ofList ['!']) args >>= _ = _
  rw [hleft, ok_bind]

theorem evaluateText_overmarked_alone (hname : BareOperand name) (hk : 1 ≤ k) :
    evaluateText (String.ofList (marks (k + 2) ++ '$' :: name)) args =
      .error (.unsupportedOperator (String.ofList (marks k))) := by
  have hright : RightOperand ('$' :: name) := rightOperand_marks (k := 0) hname
  refine evaluateText_overmarked hk ⟨?_, hright.ends⟩ hright.nonempty hright.inLine
  rintro c ⟨⟩
  decide

theorem evaluateText_overmarked_identical {right : List Char} (hname : BareOperand name)
    (hright : RightOperand right) (hk : 1 ≤ k) :
    evaluateText (String.ofList (identicalText (marks (k + 2) ++ '$' :: name) right)) args =
      .error (.unsupportedOperator (String.ofList (marks k))) := by
  have hnamed : RightOperand ('$' :: name) := rightOperand_marks (k := 0) hname
  have htext : identicalText (marks (k + 2) ++ '$' :: name) right =
      marks (k + 2) ++ identicalText ('$' :: name) right := List.append_assoc _ _ _
  rw [htext]
  refine evaluateText_overmarked hk ⟨?_, identicalText_last hright⟩ (by simp [identicalText]) ?_
  · rintro c ⟨⟩
    decide
  · have hline := hnamed.inLine
    simp only [List.mem_cons, not_or] at hline
    simp [identicalText, spaces, Comparison.toText, hline.2, hright.inLine]

/-- Two marks on the left negate twice, more of them are refused, and on the
right only one of them negates the argument. -/
theorem evaluateText_negations {other : List Char} {w : Value} (hname : BareOperand name)
    (hother : BareOperand other) (hv : args.find? (String.ofList name) = some v)
    (hw : args.find? (String.ofList other) = some w) (hplainv : v.isStructured = false)
    (hplainw : w.isStructured = false) (hk : 1 ≤ k) :
    (k ≤ 2 →
      evaluateText (String.ofList (marks k ++ '$' :: name)) args =
        .ok (negations k v).isTruthy ∧
      evaluateText (String.ofList (identicalText (marks k ++ '$' :: name) ('$' :: other))) args =
        .ok ((negations k v).strictEquals w)) ∧
    (2 < k →
      evaluateText (String.ofList (marks k ++ '$' :: name)) args =
        .error (.unsupportedOperator (String.ofList (marks (k - 2)))) ∧
      evaluateText (String.ofList (identicalText (marks k ++ '$' :: name) ('$' :: other))) args =
        .error (.unsupportedOperator (String.ofList (marks (k - 2))))) ∧
    evaluateText (String.ofList (identicalText ('$' :: other) (marks k ++ '$' :: name))) args =
      .ok (w.strictEquals (if k = 1 then negations 1 v else .bool false)) := by
  have hright : RightOperand ('$' :: other) := rightOperand_marks (k := 0) hother
  have hvalue : operand (String.ofList ('$' :: other)) args = .ok w :=
    operand_marks (k := 0) hw hplainw (Nat.zero_le 1)
  refine ⟨fun hle => ?_, fun hlt => ?_, ?_⟩
  · obtain ⟨j, rfl⟩ : ∃ j, k = j + 1 := ⟨k - 1, by omega⟩
    have hj : j ≤ 1 := by omega
    exact ⟨evaluateText_marked hname hv hplainv hj,
      evaluateText_marked_identical hname hv hplainv hright hvalue hj⟩
  · obtain ⟨j, rfl⟩ : ∃ j, k = j + 2 := ⟨k - 2, by omega⟩
    have hj : 1 ≤ j := by omega
    rw [Nat.add_sub_cancel]
    exact ⟨evaluateText_overmarked_alone hname hj,
      evaluateText_overmarked_identical hname hright hj⟩
  · refine evaluateText_identical hother.dollar.left (rightOperand_marks hname) hvalue ?_
    split
    · next hone =>
        subst hone
        exact operand_marks hv hplainv (Nat.le_refl 1)
    · next hne => exact operand_overmarked (by omega)

/-- Three marks on the left and two on the right. -/
theorem evaluateText_negations_three :
    evaluateText "!!!$n" [("n", .int 1), ("m", .bool true)] = .error (.unsupportedOperator "!") ∧
      evaluateText "$m === !!$n" [("n", .int 1), ("m", .bool true)] = .ok false := by
  have hname : BareOperand "n".toList := ⟨by simp, by simp [isBlank, operatorChars], by simp⟩
  have hother : BareOperand "m".toList := ⟨by simp, by simp [isBlank, operatorChars], by simp⟩
  have hv : Arguments.find? [("n", .int 1), ("m", .bool true)] (String.ofList "n".toList) =
      some (.int 1) := rfl
  have hw : Arguments.find? [("n", .int 1), ("m", .bool true)] (String.ofList "m".toList) =
      some (.bool true) := rfl
  have hthree := evaluateText_negations (k := 3) hname hother hv hw rfl rfl (by decide)
  have htwo := evaluateText_negations (k := 2) hname hother hv hw rfl rfl (by decide)
  have hfalse : (Value.bool true).strictEquals (.bool false) = false := Value.strictEquals_bool ..
  exact ⟨(hthree.2.1 (by decide)).1, htwo.2.2.trans (congrArg _ hfalse)⟩

/-- The twofold negation on the right and the threefold one on the left would
give a different answer each. -/
theorem evaluateText_not_negations :
    evaluateText "$m === !!$n" [("n", .int 1), ("m", .bool true)] = .ok false ∧
      (Value.bool true).strictEquals (negations 2 (.int 1)) = true ∧
      evaluateText "!!!$n" [("n", .int 1)] = .error (.unsupportedOperator "!") := by
  have hfalse : (Value.bool true).strictEquals (.bool false) = false := Value.strictEquals_bool ..
  have htext : evaluateText "$m === !!$n" [("n", .int 1), ("m", .bool true)] =
      .ok ((Value.bool true).strictEquals (.bool false)) := rfl
  refine ⟨?_, Value.strictEquals_bool .., rfl⟩
  rw [htext, hfalse]

end

end Condition

end Stencil
