import Stencil.Proofs.Template.Operand
import Stencil.Proofs.Value.LooseOrder

/-!
# The operators agree with each other

Six of the eight operators go by the loose order of their operands, so each
of them can be told from two others, and turning a comparison round is
turning its operator round. The two strict ones ask for more than loose
equality. All of this is about what is written: an operand with a mark or
without one, with any number of spaces around it, and on either side if it
may stand on both.
-/

namespace Stencil.Condition

open Stencil.Text

/-- An operand as it is written: a text, perhaps with a mark in front. -/
structure Operand where
  marked : Bool
  text : List Char

namespace Operand

def chars (x : Operand) : List Char := (if x.marked then ['!'] else []) ++ x.text

/-- The value of the text, turned over by the mark. -/
def value (x : Operand) (args : Arguments) : Except Failure Value :=
  (plainOperand x.text args).map fun v => if x.marked then .bool (!v.isTruthy) else v

def OnLeft (x : Operand) : Prop := LeftOperand x.text

structure OnRight (x : Operand) : Prop where
  operand : RightOperand x.chars
  unmarked : x.marked = false → x.text.head? ≠ some '!'

/-- The condition that compares two operands. -/
def compared (x : Operand) (op : Comparison) (y : Operand) : Condition :=
  ⟨String.ofList x.text, x.marked, some op.toText, some (String.ofList y.chars)⟩

variable {x y : Operand} {args : Arguments} {a b : Value}

theorem printable_compared (hx : x.OnLeft) (hy : y.OnRight) (op : Comparison) :
    (x.compared op y).Printable := by
  refine ⟨?_, .compared op ?_⟩
  · rw [compared, String.toList_ofList]
    exact hx
  · rw [String.toList_ofList]
    exact hy.operand

theorem OnRight.operand_eq (hy : y.OnRight) :
    Condition.operand (String.ofList y.chars) args = y.value args := by
  cases hmark : y.marked with
  | true =>
      simp only [chars, value, hmark, if_true]
      rw [Condition.operand, String.toList_ofList]
      rfl
  | false =>
      simp only [chars, value, hmark, Bool.false_eq_true, if_false, List.nil_append]
      rw [operand_unmarked (hy.unmarked hmark)]
      cases plainOperand y.text args <;> rfl

theorem holds_compared (hx : x.OnLeft) (hy : y.OnRight) (ha : x.value args = .ok a)
    (hb : y.value args = .ok b) (op : Comparison) :
    (x.compared op y).holds args = op.holds a b := by
  obtain ⟨d, ds, hd, _, hne⟩ := hx.head
  have hleft : Condition.operand (String.ofList x.text) args = plainOperand x.text args :=
    operand_unmarked (by rw [hd]; simpa using hne)
  obtain ⟨v, hv, rfl⟩ := map_eq_ok.1 ha
  rw [Condition.holds_compared rfl rfl (hy.operand_eq.trans hb)]
  show Condition.operand (String.ofList x.text) args >>= _ = _
  rw [hleft, hv, ok_bind]
  rfl

end Operand

/-- What the text of a condition evaluates to, whatever the spaces in it. -/
def Answers (c : Condition) (args : Arguments) (answer : Bool) : Prop :=
  ∀ lead front back trail, evaluateText (c.print lead front back trail) args = .ok answer

theorem answers_of_holds {c : Condition} {args : Arguments} {answer : Bool} (hc : c.Printable)
    (h : c.holds args = .ok answer) : c.Answers args answer := by
  intro lead front back trail
  rw [evaluateText, parse_print hc, ok_bind, h]

/-- The loose comparison has one of three answers, and turning it round gives
the opposite one; what is strictly equal is loosely equal. So `<=` is `<` or
`==`, `>=` is `>` or `==`, `<` is `>` the other way round, and what is
identical is equal. -/
theorem operators_coherent {a b : Value} {n : Int} (ha : a.IsSingle) (hb : b.IsSingle)
    (h : a.looseCompare b = .ok n) :
    ∃ eq : Bool, a.looseEquals b = .ok eq ∧ b.looseEquals a = .ok eq ∧
      b.looseCompare a = .ok (-n) ∧
      (n < 0 ∧ eq = false ∧ ¬ 0 < n ∨ ¬ n < 0 ∧ eq = true ∧ ¬ 0 < n ∨
        ¬ n < 0 ∧ eq = false ∧ 0 < n) ∧
      ((∀ m, a ≠ .moment m) → a.strictEquals b = true → eq = true) ∧
      ∀ (args : Arguments) (x y : Operand), x.OnLeft → y.OnRight → x.value args = .ok a →
        y.value args = .ok b →
        (x.compared .less y).Answers args (decide (n < 0)) ∧
        (x.compared .greater y).Answers args (decide (0 < n)) ∧
        (x.compared .equal y).Answers args eq ∧
        (x.compared .atMost y).Answers args (decide (n < 0) || eq) ∧
        (x.compared .atLeast y).Answers args (decide (0 < n) || eq) ∧
        (y.OnLeft → x.OnRight → (y.compared .greater x).Answers args (decide (n < 0))) ∧
        ((∀ m, a ≠ .moment m) → (x.compared .identical y).Answers args true → eq = true) := by
  obtain ⟨o, ho⟩ := Value.stands_of_looseCompare ha hb h
  have hturn := ho.turn ha.plain hb.plain
  obtain rfl : Value.tell o = n := Except.ok.inj (ho.looseCompare.symm.trans h)
  have hless : (o == .lt) = decide (Value.tell o < 0) := by cases o <;> rfl
  have hgreater : (o == .gt) = decide (0 < Value.tell o) := by cases o <;> rfl
  refine ⟨o == .eq, ho.looseEquals, ?_, ?_, ?_, fun hmoment hsame => ?_, ?_⟩
  · rw [hturn.looseEquals]
    cases o <;> rfl
  · rw [hturn.looseCompare]
    cases o <;> rfl
  · cases o <;> decide
  · rw [ho.of_strictEquals ha hmoment hsame]
    rfl
  · intro args x y hx hy hxa hyb
    have hanswers : ∀ {op answer}, Comparison.holds op a b = .ok answer →
        (x.compared op y).Answers args answer := fun {op _} hop =>
      answers_of_holds (x.printable_compared hx hy op) ((x.holds_compared hx hy hxa hyb op).trans hop)
    have hops := ho.holds
    rw [hless, hgreater] at hops
    obtain ⟨hlt, hgt, heq, hatMost, hatLeast⟩ := hops
    refine ⟨hanswers hlt, hanswers hgt, hanswers heq, hanswers hatMost, hanswers hatLeast,
      fun hy' hx' => ?_, fun hmoment hsame => ?_⟩
    · -- The other way round, the two conditions are of different shapes and only their values meet.
      refine answers_of_holds (y.printable_compared hy' hx' _) ?_
      rw [y.holds_compared hy' hx' hyb hxa, hturn.holds.2.1, ← hless]
      cases o <;> rfl
    · have hstrict : Comparison.holds .identical a b = .ok (a.strictEquals b) := rfl
      have hidentical := hanswers hstrict 0 0 0 0
      rw [hsame 0 0 0 0] at hidentical
      rw [ho.of_strictEquals ha hmoment (Except.ok.inj hidentical).symm]
      rfl

/-- A text with blanks around its digits and a text with a point, which as
texts would stand in the opposite order. -/
theorem operators_coherent_numerals :
    let args : Arguments := [("a", .str " 10 ")]
    (Value.str " 10 ").IsSingle ∧ (Value.str "9.5").IsSingle ∧
      (Value.str " 10 ").looseCompare (.str "9.5") = .ok 1 ∧
      (Value.str " 10 ").looseEquals (.str "9.5") = .ok false ∧
      (Value.str "9.5").looseCompare (.str " 10 ") = .ok (-1) ∧
      evaluateText "$a <\"9.5\"" args = .ok false ∧ evaluateText "$a>\"9.5\"" args = .ok true ∧
      evaluateText " $a <= \"9.5\"" args = .ok false ∧
      evaluateText "$a  >= \"9.5\"" args = .ok true ∧
      evaluateText "\"9.5\" > $a" args = .ok false := by
  intro args
  have ha : (Value.str " 10 ").IsSingle := ⟨rfl, by simp⟩
  have hb : (Value.str "9.5").IsSingle := ⟨rfl, by simp⟩
  have hcompare : (Value.str " 10 ").looseCompare (.str "9.5") = .ok 1 := by rfl
  have hplain : ∀ d ∈ ['$', 'a'], isBlank d = false ∧ d ∉ operatorChars := by
    simp [isBlank, operatorChars]
  have hname : LeftOperand "$a".toList :=
    show LeftOperand ['$', 'a'] from .word (by decide) (by decide) hplain
  have hinside : '"' ∉ "9.5".toList := by simp
  have hquoted : LeftOperand "\"9.5\"".toList := LeftOperand.quotation (.inl rfl) hinside
  have hright : ∀ cs : List Char, cs = "$a".toList ∨ cs = "\"9.5\"".toList →
      Operand.OnRight ⟨false, cs⟩ := by
    rintro cs (rfl | rfl) <;> refine ⟨⟨by decide, by decide, ?_, ?_⟩, by decide⟩ <;>
      · rintro c ⟨⟩
        decide
  obtain ⟨eq, heq, _, hturn, hone, _, hlaws⟩ := operators_coherent ha hb hcompare
  obtain ⟨hlt, hgt, _, hatMost, hatLeast, hround, _⟩ :=
    hlaws args ⟨false, "$a".toList⟩ ⟨false, "\"9.5\"".toList⟩ hname (hright _ (.inr rfl)) rfl rfl
  obtain rfl : eq = false := by
    rcases hone with ⟨h, _⟩ | ⟨_, _, h⟩ | ⟨_, h, _⟩
    · exact absurd h (by decide)
    · exact absurd h (by decide)
    · exact h
  exact ⟨ha, hb, hcompare, heq, hturn, hlt 0 1 0 0, hgt 0 0 0 0, hatMost 1 1 1 0,
    hatLeast 0 2 1 0, hround hquoted (hright _ (.inl rfl)) 0 1 1 0⟩

/-- One moment on the clocks of two zones: the texts differ. -/
example :
    let early := Value.moment ⟨⟨2001, 12, 15⟩, 2, 59, 43, 0, some .utc⟩
    let late := Value.moment ⟨⟨2001, 12, 14⟩, 21, 59, 43, 0, some ⟨-18000, none⟩⟩
    early.strictEquals late = true ∧ early.looseEquals late = .ok false :=
  ⟨by decide +kernel, rfl⟩

end Stencil.Condition
