import Mathlib.Data.List.Basic
import Stencil.Proofs.Chaining
import Stencil.Proofs.Template.PrintedCondition

/-!
# What a condition that is read stands for

An operand stands for a given argument or for a literal, and the opposite
truth value behind a mark of its own. Evaluating the text of a condition is
evaluating what is read from it: one operand alone, two operands that are
compared, or an operator that nothing is known about.
-/

namespace Stencil.Condition

open Stencil.Text

/-! ## Operands -/

/-- A text that begins like an operator is no other literal. -/
theorem read_run {c : Char} {cs : List Char} (hc : c ∈ operatorChars) :
    Literal.read (c :: cs) = .ok (Value.ofChars (c :: cs)) := by
  have hdigit : isDigit c = false := by
    simp only [operatorChars, List.mem_cons, List.not_mem_nil, or_false] at hc
    rcases hc with rfl | rfl | rfl | rfl <;> rfl
  simp only [operatorChars, List.mem_cons, List.not_mem_nil, or_false] at hc
  rcases hc with rfl | rfl | rfl | rfl <;>
    simp [Literal.read, Literal.unquoted?, Numeral.isPointed, Numeral.isWhole, Numeral.splitSign,
      hdigit]

section

variable {args : Arguments}

theorem plainOperand_given {name : List Char} {v : Value}
    (hfind : args.find? (String.ofList name) = some v) (hplain : v.isStructured = false) :
    plainOperand ('$' :: name) args = .ok v := by
  rw [plainOperand]
  simp [hfind, hplain, ok_bind]

theorem plainOperand_literal {cs : List Char} {v : Value} (hhead : cs.head? ≠ some '$')
    (hread : Literal.read cs = .ok v) (hplain : v.isStructured = false) :
    plainOperand cs args = .ok v := by
  rw [plainOperand.eq_2 _ _ (by rintro name rfl; exact hhead rfl), hread]
  simp [hplain, ok_bind]

theorem operand_unmarked {cs : List Char} (hhead : cs.head? ≠ some '!') :
    operand (String.ofList cs) args = plainOperand cs args := by
  rw [operand, String.toList_ofList]
  split
  · exact absurd rfl hhead
  · rfl

theorem operand_marked {cs : List Char} {v : Value} (h : plainOperand cs args = .ok v) :
    operand (String.ofList ('!' :: cs)) args = .ok (.bool (!v.isTruthy)) := by
  rw [operand, String.toList_ofList]
  show (plainOperand cs args).map _ = _
  rw [h]
  rfl

theorem plainOperand_run {c : Char} {cs : List Char} (hc : c ∈ operatorChars) :
    plainOperand (c :: cs) args = .ok (Value.ofChars (c :: cs)) := by
  refine plainOperand_literal ?_ (read_run hc) rfl
  rintro ⟨⟩
  exact absurd hc (by decide)

/-- Behind its mark a run is a text that is not empty. -/
theorem operand_markedRun {c : Char} {cs : List Char} (hc : c ∈ operatorChars) :
    operand (String.ofList ('!' :: c :: cs)) args = .ok (.bool false) := by
  rw [operand_marked (plainOperand_run hc), Value.ofChars, Value.isTruthy]
  simp

theorem operand_run {c : Char} (hc : c ∈ operatorChars) (hne : c ≠ '!') :
    operand (String.ofList [c]) args = .ok (Value.ofChars [c]) := by
  rw [operand_unmarked (by simpa using hne), plainOperand_run hc]

/-! ## Conditions -/

theorem ofText?_toText (op : Comparison) : Comparison.ofText? op.toText = some op := by
  cases op <;> rfl

theorem ofText?_eq_none {ops : List Char} (h : ∀ op : Comparison, ops ≠ op.toText.toList) :
    Comparison.ofText? (String.ofList ops) = none := by
  rw [Comparison.ofText?, List.find?_eq_none]
  intro op _ heq
  refine h op ?_
  rw [beq_iff_eq.1 heq, String.toList_ofList]

/-- What the left operand of a condition counts as. -/
def counted (c : Condition) (v : Value) : Value := if c.negated then .bool (!v.isTruthy) else v

theorem counted_negated {c : Condition} {v : Value} (h : c.negated = true) :
    c.counted v = .bool (!v.isTruthy) := if_pos h

theorem counted_plain {c : Condition} {v : Value} (h : c.negated = false) : c.counted v = v := by
  rw [counted, h, if_neg Bool.false_ne_true]

theorem holds_alone {c : Condition} (hop : c.operator = none) :
    c.holds args = operand c.left args >>= fun v => .ok (c.counted v).isTruthy := by
  rw [holds, hop]
  rfl

theorem holds_compared {c : Condition} {op : Comparison} {right : String} {v : Value}
    (hop : c.operator = some op.toText) (hright : c.right = some right)
    (hvalue : operand right args = .ok v) :
    c.holds args = operand c.left args >>= fun u => op.holds (c.counted u) v := by
  rw [holds, hop, hright]
  simp only [ofText?_toText, Option.getD_some, hvalue, ok_bind]
  rfl

/-- A condition with an unknown operator fails as soon as its left operand is
known. -/
theorem holds_unsupported {c : Condition} {op : String} (hop : c.operator = some op)
    (h : Comparison.ofText? op = none) :
    c.holds args = operand c.left args >>= fun _ => .error (.unsupportedOperator op) := by
  rw [holds, hop]
  simp only [h]

theorem evaluateText_of_read? {cs : List Char} {c : Condition} (h : read? cs = some c) :
    evaluateText (String.ofList cs) args = c.holds args := by
  rw [evaluateText, parse, String.toList_ofList, h]
  rfl

theorem evaluateText_of_unread {cs : List Char} (h : read? cs = none) :
    evaluateText (String.ofList cs) args =
      .error (.structural (.malformedCondition (String.ofList cs))) := by
  rw [evaluateText, parse, String.toList_ofList, h]
  rfl

end

/-! ## Strict comparisons -/

section

variable {left right : List Char} {args : Arguments} {v w : Value}

/-- Two operands that are compared strictly. -/
def identicalText (left right : List Char) : List Char :=
  left ++ (spaces 1 ++ (Comparison.identical.toText.toList ++ (spaces 1 ++ right)))

theorem identicalText_last (hright : RightOperand right) :
    ∀ d ∈ (identicalText left right).getLast?, isBlank d = false := by
  intro d hd
  rw [identicalText, ← List.append_assoc, ← List.append_assoc, ← List.append_assoc,
    List.getLast?_append_of_ne_nil _ hright.nonempty] at hd
  exact hright.ends d hd

theorem evaluateText_identical (hleft : LeftOperand left) (hright : RightOperand right)
    (hv : operand (String.ofList left) args = .ok v)
    (hw : operand (String.ofList right) args = .ok w) :
    evaluateText (String.ofList (identicalText left right)) args = .ok (v.strictEquals w) := by
  have hread := read?_compared .identical hleft hright 1 1
  rw [identicalText, evaluateText_of_read? hread, holds_compared rfl rfl hw, hv, ok_bind,
    counted_plain rfl, Comparison.holds]

end

end Stencil.Condition
