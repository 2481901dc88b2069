import Stencil.Proofs.Chaining
import Stencil.Proofs.Regex.Takes
import Stencil.Proofs.Template.PrintedCondition

/-!
# Runs of operator characters

What the operator of a condition takes when any run of operator characters
follows the left operand. An operator is looked for first and the longest run
second, and either is given back where that leaves nothing for the right
operand. So a run is not always kept whole: an operator ends in front of an
exclamation mark, whatever stands behind the mark (`run_known_some`), and
without a right operand the last character of the run is taken for one
(`run_operator_short`). Apart from that a run that is no operator is taken as
it is (`run_operator_whole`). The last section says the same of all that
stands behind a left operand.
-/

namespace Stencil.Condition

open Stencil.Regex Stencil.Text Stencil.TagPattern

/-- An operand without quotes and without operator characters. -/
structure BareOperand (cs : List Char) : Prop where
  nonempty : cs ≠ []
  plain : ∀ c ∈ cs, isBlank c = false ∧ c ∉ operatorChars
  unquoted : ∀ c ∈ cs, c ≠ '"' ∧ c ≠ '\''

structure OperatorRun (ops : List Char) : Prop where
  nonempty : ops ≠ []
  chars : ∀ c ∈ ops, c ∈ operatorChars

/-- What stands behind a run does not go on with it, and neither begins nor
ends with a blank. -/
structure BehindRun (body : List Char) : Prop where
  begins : ∀ c ∈ body.head?, isBlank c = false ∧ c ∉ operatorChars
  ends : ∀ c ∈ body.getLast?, isBlank c = false

/-- No operator ends in front of an exclamation mark. -/
def Undivided (ops : List Char) : Prop :=
  ∀ (op : Comparison) (more : List Char), ops ≠ op.toText.toList ++ '!' :: more

theorem behindRun_nil : BehindRun [] := ⟨by simp, by simp⟩

theorem BareOperand.left {cs : List Char} (h : BareOperand cs) : LeftOperand cs := by
  cases cs with
  | nil => exact absurd rfl h.nonempty
  | cons c cs =>
      obtain ⟨hdouble, hsingle⟩ := h.unquoted c List.mem_cons_self
      exact .word hdouble hsingle h.plain

theorem BareOperand.dollar {name : List Char} (h : BareOperand name) :
    BareOperand ('$' :: name) := by
  refine ⟨by simp, fun c hc => ?_, fun c hc => ?_⟩
  · rcases List.mem_cons.1 hc with rfl | hc
    · decide
    · exact h.plain c hc
  · rcases List.mem_cons.1 hc with rfl | hc
    · decide
    · exact h.unquoted c hc

theorem operator_chars (op : Comparison) : ∀ c ∈ op.toText.toList, c ∈ operatorChars := by
  cases op <;> simp [Comparison.toText, operatorChars]

theorem operatorChar_notBlank {c : Char} (hc : c ∈ operatorChars) : isBlank c = false := by
  simp only [operatorChars, List.mem_cons, List.not_mem_nil, or_false] at hc
  rcases hc with rfl | rfl | rfl | rfl <;> decide

/-- An operator that begins a run and what is behind it ends inside the run. -/
theorem operator_inside {op : Comparison} {ops body tail : List Char} (hbody : BehindRun body)
    (h : ops ++ body = op.toText.toList ++ tail) :
    ∃ more, ops = op.toText.toList ++ more ∧ tail = more ++ body := by
  rcases List.append_eq_append_iff.1 h with ⟨back, hop, hback⟩ | ⟨more, hops, htail⟩
  · cases back with
    | nil => exact ⟨[], by rw [hop]; simp, by rw [hback]; rfl⟩
    | cons c back =>
        have hc : c ∈ operatorChars := operator_chars op c (by rw [hop]; simp)
        exact absurd hc (hbody.begins c (by rw [hback]; rfl)).2
  · exact ⟨more, hops, htail⟩

section

variable {p q : Place} {k : Continue} {ops body : List Char}

/-! ## In front of the operator -/

/-- Blanks behind the left operand are taken, and what follows them has to be
a comparison. -/
theorem behindLeft_eq {rest : List Char} (hne : rest ≠ [])
    (hhead : ∀ c ∈ rest.head?, isBlank c = false)
    (hlast : ∀ c ∈ rest.getLast?, isBlank c = false) : ∀ {n : Nat} {p : Place},
    p.rest = spaces n ++ rest → behindLeft p = run comparison (p.skip n) behindRight := by
  -- Where there is no comparison, the blanks would have to reach the end.
  have hthen : ∀ {r : Place} {m : Nat}, r.rest = spaces m ++ rest →
      run (.all [.optional comparison, .many .blank]) r atEnd = run comparison r behindRight := by
    intro r m hr
    have hblanks : run (.many .blank) r atEnd = none := by
      refine run_blanks_none (by rw [hr]; simp [hne]) fun c hc => ?_
      rw [hr, List.getLast?_append_of_ne_nil _ hne] at hc
      exact hlast c hc
    rw [run_all_cons, run_optional, run_all_cons]
    simp only [run_all_nil]
    rw [hblanks, Option.or_none]
    rfl
  intro n
  induction n with
  | zero =>
      intro p hrest
      have hstop : p.step? (.set false [.blank false]) = none := by
        cases hrest' : rest with
        | nil => exact absurd hrest' hne
        | cons c cs =>
            rw [Place.step?_cons _ (hrest.trans hrest'), holds_blank,
              hhead c (by rw [hrest']; rfl), if_neg Bool.false_ne_true]
      rw [behindLeft, run_all_cons, Regex.blank, run_many, hstop, Option.bind_none,
        Option.none_or, ← Regex.blank, hthen hrest, Place.skip_zero]
  | succ n ih =>
      intro p hrest
      have hcons : p.rest = ' ' :: (spaces n ++ rest) := by rw [hrest]; rfl
      have hnext : (p.skip 1).rest = spaces n ++ rest := by rw [Place.skip_rest, hcons]; rfl
      have hnone : run comparison p behindRight = none :=
        run_comparison_none (by rw [hcons]; rintro c ⟨⟩; decide)
      have hrec := ih hnext
      rw [Place.skip_skip, Nat.add_comm, behindLeft, run_all_cons] at hrec
      rw [behindLeft, run_all_cons, Regex.blank, run_many, Place.step?_cons _ hcons, holds_blank,
        if_pos (by decide), Option.bind_some, ← Regex.blank, hthen hrest, hnone, Option.or_none]
      exact hrec

/-- A bare operand is taken whole in front of a blank. -/
theorem left_whole {cs tail : List Char} (h : BareOperand cs) (hrest : p.rest = cs ++ ' ' :: tail)
    (hrun : run (.group "left" leftPart) p behindLeft = some q) :
    ∃ r : Place, r.rest = ' ' :: tail ∧ behindLeft r = some q := by
  obtain ⟨_, ⟨m, htakes, rfl⟩, hbehind⟩ := run_takes hrun
  have hquote : ∀ c, (c = '"' ∨ c = '\'') → ¬ (quotedOperand c).Takes p m := by
    rintro c hc ⟨_, hone, _⟩
    obtain ⟨⟨d, hd, hholds⟩, _⟩ := (takes_one _).1 hone
    obtain rfl : c = d := beq_iff_eq.1 hholds
    have hmem : c ∈ cs := by
      rw [hrest, List.head?_append_of_ne_nil _ h.nonempty] at hd
      exact List.mem_of_mem_head? hd
    have hunquoted := h.unquoted c hmem
    rcases hc with rfl | rfl
    · exact hunquoted.1 rfl
    · exact hunquoted.2 rfl
  rw [leftPart, takes_first (by simp)] at htakes
  simp only [List.mem_cons, List.not_mem_nil, or_false, exists_eq_or_imp, exists_eq_left] at htakes
  obtain ⟨n, hn, hle, hchars, rfl⟩ := (takes_repeat_one _ _ _).1
    ((htakes.resolve_left (hquote '"' (.inl rfl))).resolve_left (hquote '\'' (.inr rfl)))
  refine ⟨_, ?_, hbehind⟩
  show p.rest.drop n = _
  rcases Nat.lt_trichotomy n cs.length with hlt | rfl | hgt
  · -- A shorter operand would leave one of its own characters behind it.
    have hleft : (p.keep "left" (p.skip n)).rest = cs[n] :: (cs.drop (n + 1) ++ ' ' :: tail) := by
      show p.rest.drop n = _
      rw [hrest, List.drop_append_of_le_length (by omega), List.drop_eq_getElem_cons hlt]
      rfl
    obtain ⟨hblank, hc⟩ := h.plain cs[n] (List.getElem_mem hlt)
    rw [behindLeft_none hleft hblank hc] at hbehind
    cases hbehind
  · rw [hrest, List.drop_left]
  · have hmem : ' ' ∈ p.rest.take n := by
      rw [hrest, List.take_append]
      obtain ⟨i, hi⟩ : ∃ i, n - cs.length = i + 1 := ⟨n - cs.length - 1, by omega⟩
      simp [hi]
    exact absurd (hchars ' ' hmem) (by decide)

/-! ## Behind the operator -/

/-- What is left of a comparison behind its operator. -/
def behindOperator : Continue := fun q => run (.all [.many .blank, rightPart]) q behindRight

theorem run_comparison : run comparison p behindRight =
    run operatorPart p fun q => behindOperator (p.keep "operator" q) := by
  rw [comparison, run_all_cons, run_group]
  rfl

theorem behindOperator_right {right : List Char} (hne : right ≠ []) (hline : '\n' ∉ right)
    (hbegins : ∀ c ∈ right.head?, isBlank c = false)
    (hends : ∀ c ∈ right.getLast?, isBlank c = false) (hrest : p.rest = right) :
    behindOperator p = some (p.marked right.length (("right", right) :: p.groups)) := by
  have hspaces : p.rest = spaces 0 ++ right := hrest
  rw [behindOperator, run_all_cons]
  refine run_blanks hspaces hbegins ?_
  rw [Place.skip_zero, run_all_cons]
  simp only [run_all_nil]
  exact run_right hne hline hends hrest

/-- The right operand is at least one character, and all of it in one line. -/
theorem behindOperator_some (hbegins : ∀ c ∈ p.rest.head?, isBlank c = false)
    (hends : ∀ c ∈ p.rest.getLast?, isBlank c = false) (h : behindOperator p = some q) :
    p.rest ≠ [] ∧ '\n' ∉ p.rest := by
  obtain ⟨_, ⟨m, hblanks, _, ⟨m', htakes, rfl⟩, rfl⟩, hbehind⟩ := run_takes h
  obtain ⟨n, _, hn, hblank, rfl⟩ := (takes_repeat_one _ _ _).1 hblanks
  obtain rfl : n = 0 := by
    cases hrest : p.rest with
    | nil => rw [hrest] at hn; simpa using hn
    | cons c cs =>
        cases n with
        | zero => rfl
        | succ n =>
            have hc := hblank c (by rw [hrest]; simp)
            rw [holds_blank, hbegins c (by rw [hrest]; rfl)] at hc
            cases hc
  rw [Place.skip_zero] at htakes hbehind
  obtain ⟨i, hi, hle, hline, rfl⟩ := (takes_repeat_one _ _ _).1 htakes
  have hwhole : i = p.rest.length := by
    by_contra hlt
    have hleft : (p.keep "right" (p.skip i)).rest = p.rest.drop i := rfl
    rw [behindRight_none ?_ ?_] at hbehind
    · cases hbehind
    · rw [hleft]
      exact List.ne_nil_of_length_pos (by rw [List.length_drop]; omega)
    · intro c hc
      rw [hleft, List.getLast?_drop, if_neg (by omega)] at hc
      exact hends c hc
  refine ⟨List.ne_nil_of_length_pos (by omega), fun hmem => ?_⟩
  rw [hwhole, List.take_length] at hline
  exact absurd (hline '\n' hmem) (by decide)

/-! ## The operator -/

/-- An operator that no comparing character follows. -/
def knownPart : Regex :=
  .all [.first (Comparison.every.map fun op => .literal op.toText.toList),
    .ahead true (.oneOf comparing)]

def operatorClass : CharClass := .set false (.one '!' :: comparing)

theorem holds_operatorClass (c : Char) : operatorClass.holds c = true ↔ c ∈ operatorChars := by
  simp only [operatorClass, CharClass.holds, comparing, operatorChars, List.any_cons, List.any_nil,
    Member.holds, Bool.or_false, bne_iff_ne, ne_eq, Bool.not_eq_false, Bool.or_eq_true, beq_iff_eq,
    List.mem_cons, List.not_mem_nil, or_false]
  grind

theorem run_operatorPart : run operatorPart p k =
    (run knownPart p k).or (run (.some1 (.one operatorClass)) p k) := by
  rw [operatorPart, run_first_cons]
  rfl

theorem run_known_some (h : run knownPart p k = some q) : ∃ (op : Comparison) (tail : List Char),
    p.rest = op.toText.toList ++ tail ∧ (∀ c ∈ tail.head?, c ∉ ['<', '>', '=']) ∧
      k (p.skip op.toText.toList.length) = some q := by
  obtain ⟨_, ⟨m, htakes, _, ⟨rfl, hahead⟩, rfl⟩, hk⟩ := run_takes h
  obtain ⟨_, hmem, htakes⟩ := (takes_first (by decide)).1 htakes
  obtain ⟨op, _, rfl⟩ := List.mem_map.1 hmem
  obtain ⟨⟨tail, hrest⟩, rfl⟩ := takes_literal.1 htakes
  refine ⟨op, tail, hrest, fun c hc hin => hahead ?_, hk⟩
  have hbehind : (p.skip op.toText.toList.length).rest.head? = some c := by
    rw [Place.skip_rest, hrest, List.drop_left]
    exact hc
  obtain ⟨cs, hcs⟩ := List.head?_eq_some_iff.1 hbehind
  rw [Regex.oneOf, run_one_cons _ hcs, if_pos]
  · rfl
  · simp only [List.mem_cons, List.not_mem_nil, or_false] at hin
    rcases hin with rfl | rfl | rfl <;> decide

/-- An operator is read where it is divided from what follows, and where it is
the whole run. -/
theorem run_known_none (hops : OperatorRun ops) (hbody : BehindRun body)
    (hundivided : Undivided ops) (hrest : p.rest = ops ++ body)
    (hk : ∀ op : Comparison, ops = op.toText.toList → k (p.skip ops.length) = none) :
    run knownPart p k = none := by
  rw [Option.eq_none_iff_forall_ne_some]
  intro q h
  obtain ⟨op, tail, hsplit, htail, hq⟩ := run_known_some h
  obtain ⟨more, rfl, rfl⟩ := operator_inside hbody (hrest.symm.trans hsplit)
  cases more with
  | nil =>
      have hnone := hk op (List.append_nil _)
      rw [List.append_nil, hq] at hnone
      cases hnone
  | cons c more =>
      have hc : c ∈ operatorChars := hops.chars c (by simp)
      have hcompares : c ∉ ['<', '>', '='] := htail c rfl
      obtain rfl : c = '!' := by
        simp only [operatorChars, List.mem_cons, List.not_mem_nil, or_false, not_or] at hc hcompares
        rcases hc with hc | hc | hc | hc
        · exact absurd hc hcompares.1
        · exact absurd hc hcompares.2.1
        · exact absurd hc hcompares.2.2
        · exact hc
      exact hundivided op more rfl

/-- What the operator takes lies inside the run. -/
theorem run_operator_some (hbody : BehindRun body) (hrest : p.rest = ops ++ body)
    (h : run operatorPart p k = some q) :
    ∃ n, 1 ≤ n ∧ n ≤ ops.length ∧ k (p.skip n) = some q := by
  rw [run_operatorPart, Option.or_eq_some_iff] at h
  rcases h with h | ⟨_, h⟩
  · obtain ⟨op, tail, hsplit, _, hq⟩ := run_known_some h
    obtain ⟨more, rfl, _⟩ := operator_inside hbody (hrest.symm.trans hsplit)
    obtain ⟨c, cs, hop, _⟩ := operator_head op
    exact ⟨_, by rw [hop]; simp, by simp, hq⟩
  · obtain ⟨_, htakes, hq⟩ := run_takes h
    obtain ⟨n, hn, hle, hchars, rfl⟩ := (takes_repeat_one _ _ _).1 htakes
    refine ⟨n, hn, ?_, hq⟩
    by_contra hgt
    cases hcs : body with
    | nil =>
        rw [hrest, hcs, List.append_nil] at hle
        exact hgt hle
    | cons c cs =>
        have hmem : c ∈ p.rest.take n := by
          obtain ⟨i, hi⟩ : ∃ i, n - ops.length = i + 1 := ⟨n - ops.length - 1, by omega⟩
          rw [hrest, hcs, List.take_append, hi]
          simp
        exact (hbody.begins c (by rw [hcs]; rfl)).2 ((holds_operatorClass c).1 (hchars c hmem))

/-- A run that is no operator is taken whole, if the rest succeeds behind it. -/
theorem run_operator_whole (hops : OperatorRun ops) (hbody : BehindRun body)
    (hundivided : Undivided ops) (hunknown : ∀ op : Comparison, ops ≠ op.toText.toList)
    (hrest : p.rest = ops ++ body) (hk : k (p.skip ops.length) = some q) :
    run operatorPart p k = some q := by
  rw [run_operatorPart, run_known_none hops hbody hundivided hrest
    (fun op hop => absurd hop (hunknown op)), Option.none_or, run_some1]
  cases hcs : ops with
  | nil => exact absurd hcs hops.nonempty
  | cons c cs =>
      rw [hcs] at hrest hk
      have hnext : (p.skip 1).rest = cs ++ body := by rw [Place.skip_rest, hrest]; rfl
      have hholds : ∀ d ∈ c :: cs, operatorClass.holds d = true :=
        fun d hd => (holds_operatorClass d).2 (hops.chars d (by rw [hcs]; exact hd))
      rw [Place.step?_cons _ hrest, if_pos (hholds c List.mem_cons_self), Option.bind_some]
      refine run_many_all hnext (fun d hd => hholds d (List.mem_cons_of_mem c hd))
        (fun d hd => ?_) ?_
      · rw [← Bool.not_eq_true, holds_operatorClass]
        exact (hbody.begins d hd).2
      · rwa [Place.skip_skip, Nat.add_comm]

/-- A run at the end of the text gives its last character back, if the rest
fails at the end and succeeds in front of that character. -/
theorem run_operator_short {cs : List Char} {c : Char} (hops : OperatorRun (cs ++ [c]))
    (hundivided : Undivided (cs ++ [c])) (hne : cs ≠ []) (hrest : p.rest = cs ++ [c])
    (hend : k (p.skip (cs.length + 1)) = none) (hk : k (p.skip cs.length) = some q) :
    run operatorPart p k = some q := by
  have hnone : run knownPart p k = none := by
    refine run_known_none hops behindRun_nil hundivided (by simpa using hrest) ?_
    intro _ _
    simpa using hend
  have hholds : ∀ d ∈ cs ++ [c], operatorClass.holds d = true :=
    fun d hd => (holds_operatorClass d).2 (hops.chars d hd)
  have hlast : (p.skip cs.length).rest = [c] := by rw [Place.skip_rest, hrest, List.drop_left]
  rw [run_operatorPart, hnone, Option.none_or, run_some1]
  cases cs with
  | nil => exact absurd rfl hne
  | cons d ds =>
      have hnext : (p.skip 1).rest = ds ++ [c] := by rw [Place.skip_rest, hrest]; rfl
      rw [Place.step?_cons _ hrest, if_pos (hholds d (by simp)), Option.bind_some]
      refine run_many_through hnext (fun e he => hholds e (by simp [he])) ?_
      rw [List.length_cons] at hlast hend hk
      have hgone : ((p.skip (ds.length + 1)).skip 1).rest = [] := by
        rw [Place.skip_rest, hlast]
        rfl
      rw [Place.skip_skip, Nat.add_comm, run_many, Place.step?_cons _ hlast,
        if_pos (hholds c (by simp)), Option.bind_some, run_many, Place.step?_nil _ hgone,
        Option.bind_none, Option.none_or, Place.skip_skip, hend, Option.none_or]
      exact hk

/-! ## Behind the left operand -/

theorem OperatorRun.append_ends (hops : OperatorRun ops) (hbody : BehindRun body) :
    ∀ c ∈ (ops ++ body).getLast?, isBlank c = false := by
  intro c hc
  rw [List.getLast?_append, Option.mem_def, Option.or_eq_some_iff] at hc
  rcases hc with hc | ⟨_, hc⟩
  · exact hbody.ends c hc
  · exact operatorChar_notBlank (hops.chars c (List.mem_of_getLast? hc))

theorem behindLeft_run {n : Nat} (hops : OperatorRun ops) (hbody : BehindRun body)
    (hrest : p.rest = spaces n ++ (ops ++ body)) : behindLeft p =
      run operatorPart (p.skip n) fun q => behindOperator ((p.skip n).keep "operator" q) := by
  rw [behindLeft_eq (by simp [hops.nonempty]) ?_ (hops.append_ends hbody) hrest, run_comparison]
  intro c hc
  rw [List.head?_append_of_ne_nil _ hops.nonempty] at hc
  exact operatorChar_notBlank (hops.chars c (List.mem_of_mem_head? hc))

theorem skip_spaces {n : Nat} {rest : List Char} (hrest : p.rest = spaces n ++ rest) :
    (p.skip n).rest = rest := by
  rw [Place.skip_rest, hrest, List.drop_left' (by rw [spaces, List.length_replicate])]

/-- A run that is no operator is the operator, if it is not divided and a
right operand stands behind it. -/
theorem behindLeft_whole {n : Nat} (hops : OperatorRun ops) (hbody : BehindRun body)
    (hundivided : Undivided ops) (hunknown : ∀ op : Comparison, ops ≠ op.toText.toList)
    (hne : body ≠ []) (hline : '\n' ∉ body) (hrest : p.rest = spaces n ++ (ops ++ body)) :
    behindLeft p =
      some (p.marked p.rest.length (("right", body) :: ("operator", ops) :: p.groups)) := by
  have hrun := skip_spaces hrest
  rw [behindLeft_run hops hbody hrest]
  refine run_operator_whole hops hbody hundivided hunknown hrun ?_
  rw [Place.skip_eq_marked (p.skip n), Place.keep_marked, hrun, List.take_left,
    behindOperator_right hne hline (fun c hc => (hbody.begins c hc).1) hbody.ends
      (by rw [Place.marked_rest, hrun, List.drop_left]),
    Place.skip_eq_marked p, Place.marked_marked, Place.marked_marked, hrest]
  simp [spaces]

/-- Without a right operand the last character of a run is taken for one. -/
theorem behindLeft_short {n : Nat} {cs : List Char} {c : Char} (hops : OperatorRun (cs ++ [c]))
    (hundivided : Undivided (cs ++ [c])) (hne : cs ≠ [])
    (hrest : p.rest = spaces n ++ (cs ++ [c])) : behindLeft p =
      some (p.marked p.rest.length (("right", [c]) :: ("operator", cs) :: p.groups)) := by
  have hrun := skip_spaces hrest
  have hrest' : p.rest = spaces n ++ ((cs ++ [c]) ++ []) := by rw [List.append_nil, hrest]
  have hc : isBlank c = false := operatorChar_notBlank (hops.chars c (by simp))
  have hline : '\n' ∉ [c] := by
    rintro hmem
    rw [List.mem_singleton.1 hmem |>.symm] at hc
    exact absurd hc (by decide)
  rw [behindLeft_run hops ⟨by simp, by simp⟩ hrest']
  refine run_operator_short hops hundivided hne hrun ?_ ?_
  · rw [Option.eq_none_iff_forall_ne_some]
    intro q hq
    have hgone : ((p.skip n).keep "operator" ((p.skip n).skip (cs.length + 1))).rest = [] := by
      show (p.skip n).rest.drop (cs.length + 1) = []
      rw [hrun]
      simp
    exact (behindOperator_some (by simp [hgone]) (by simp [hgone]) hq).1 hgone
  · rw [Place.skip_eq_marked (p.skip n), Place.keep_marked, hrun, List.take_left,
      behindOperator_right (by simp) hline (by simpa using hc) (by simpa using hc)
        (by rw [Place.marked_rest, hrun, List.drop_left]),
      Place.skip_eq_marked p, Place.marked_marked, Place.marked_marked, hrest]
    simp [spaces]

/-- A comparison needs a right operand in one line, and a character of the
run if there is no other. -/
theorem behindLeft_some {n : Nat} (hops : OperatorRun ops) (hbody : BehindRun body)
    (hrest : p.rest = spaces n ++ (ops ++ body)) (h : behindLeft p = some q) :
    '\n' ∉ body ∧ (body ≠ [] ∨ 1 < ops.length) := by
  have hrun := skip_spaces hrest
  rw [behindLeft_run hops hbody hrest] at h
  obtain ⟨i, hi, hle, hq⟩ := run_operator_some hbody hrun h
  have hright : ((p.skip n).keep "operator" ((p.skip n).skip i)).rest = ops.drop i ++ body := by
    show (p.skip n).rest.drop i = _
    rw [hrun, List.drop_append_of_le_length hle]
  have hbegins : ∀ c ∈ (ops.drop i ++ body).head?, isBlank c = false := by
    intro c hc
    rw [List.head?_append, Option.mem_def, Option.or_eq_some_iff] at hc
    rcases hc with hc | ⟨_, hc⟩
    · exact operatorChar_notBlank (hops.chars c (List.mem_of_mem_drop (List.mem_of_mem_head? hc)))
    · exact (hbody.begins c hc).1
  have hends : ∀ c ∈ (ops.drop i ++ body).getLast?, isBlank c = false := by
    intro c hc
    rw [List.getLast?_append, Option.mem_def, Option.or_eq_some_iff] at hc
    rcases hc with hc | ⟨_, hc⟩
    · exact hbody.ends c hc
    · exact operatorChar_notBlank (hops.chars c (List.mem_of_mem_drop (List.mem_of_getLast? hc)))
  rw [← hright] at hbegins hends
  obtain ⟨hne, hline⟩ := behindOperator_some hbegins hends hq
  rw [hright] at hne hline
  refine ⟨fun hmem => hline (List.mem_append_right _ hmem), ?_⟩
  by_contra hcon
  simp only [not_or, not_not, Nat.not_lt] at hcon
  refine hne ?_
  rw [hcon.1, List.append_nil, List.drop_eq_nil_iff]
  omega

end

end Stencil.Condition
