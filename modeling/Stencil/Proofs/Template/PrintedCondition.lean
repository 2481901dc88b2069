import Stencil.Proofs.Template.TagShape
import Stencil.Proofs.Text.Trim
import Stencil.Template.Condition

/-!
# A condition that is printed is read back

`Printable` says which conditions can be written down so that nothing in them
is taken for something else, and `print` writes one with any number of spaces
around its parts. Reading gives the condition back, field by field.

The expression for conditions is followed from left to right, and at each
part the question is why no earlier attempt succeeds. A left operand without
quotes is taken as short as possible, so every shorter one has to fail: what
would stand behind it begins with a character that is neither blank nor part
of an operator. An operator is taken in a fixed order, so no longer one may
begin in the same place: that is where the first character of the right
operand matters. And a shorter right operand would leave a last character
behind it that is not blank.
-/

namespace Stencil.Condition

open Stencil.Regex Stencil.Text Stencil.TagPattern

/-! ## Printing -/

/-- The characters that operators are made of. -/
def operatorChars : List Char := ['<', '>', '=', '!']

/-- A left operand: a word without operator characters that does not begin
like a quotation, or a quotation. -/
inductive LeftOperand : List Char → Prop
  | word {c : Char} {cs : List Char} : c ≠ '"' → c ≠ '\'' →
      (∀ d ∈ c :: cs, isBlank d = false ∧ d ∉ operatorChars) → LeftOperand (c :: cs)
  | quotation {q : Char} {cs : List Char} : q = '"' ∨ q = '\'' → q ∉ cs →
      LeftOperand (q :: (cs ++ [q]))

/-- A right operand: one line without blanks around it that does not go on
with an operator. It may begin with an exclamation mark. -/
structure RightOperand (cs : List Char) : Prop where
  nonempty : cs ≠ []
  inLine : '\n' ∉ cs
  begins : ∀ c ∈ cs.head?, isBlank c = false ∧ c ∉ ['<', '>', '=']
  ends : ∀ c ∈ cs.getLast?, isBlank c = false

/-- What stands behind the left operand: nothing, or an operator and a right
operand. -/
inductive Comparand : Option String → Option String → Prop
  | none : Comparand none none
  | compared (op : Comparison) {right : String} : RightOperand right.toList →
      Comparand (some op.toText) (some right)

structure Printable (c : Condition) : Prop where
  left : LeftOperand c.left.toList
  comparand : Comparand c.operator c.right

def spaces (n : Nat) : List Char := List.replicate n ' '

/-- The condition without what is around it, with spaces on both sides of the
operator. -/
def printInner (c : Condition) (front back : Nat) : List Char :=
  (if c.negated then ['!'] else []) ++ c.left.toList ++ spaces front ++
    (c.operator.getD "").toList ++ spaces back ++ (c.right.getD "").toList

def print (c : Condition) (lead front back trail : Nat) : String :=
  String.ofList (spaces lead ++ c.printInner front back ++ spaces trail)

theorem spaces_blank {n : Nat} {c : Char} (h : c ∈ spaces n) : isBlank c = true := by
  rw [List.eq_of_mem_replicate h]
  decide

/-! ## The end of the text -/

section

variable {p q : Place} {k : Continue}

/-- The match has to reach the end of the text. -/
def atEnd : Continue := fun q => if q.rest = [] then some q else none

def behindRight : Continue := fun q => run (.all [.many .blank]) q atEnd

theorem behindRight_end (h : p.rest = []) : behindRight p = some p := by
  have hrest : p.rest = [] ++ [] := h
  rw [behindRight, run_all_cons]
  refine run_many_all hrest (by simp) (by simp) ?_
  rw [run_all_nil, List.length_nil, Place.skip_zero, atEnd, if_pos h]

/-- Blanks cannot take what is left of the text to its end if the last
character is none. -/
theorem run_blanks_none (hne : p.rest ≠ []) (hlast : ∀ c ∈ p.rest.getLast?, isBlank c = false) :
    run (.many .blank) p atEnd = none := by
  induction p using Place.along with
  | nil p hrest => exact absurd hrest hne
  | cons p c cs hrest ih =>
      have hstop : atEnd p = none := by rw [atEnd, if_neg hne]
      rw [Regex.blank, run_many, Place.step?_cons _ hrest, hstop, Option.or_none, holds_blank]
      cases cs with
      | nil =>
          have hc : isBlank c = false := hlast c (by rw [hrest]; rfl)
          rw [hc, if_neg Bool.false_ne_true, Option.bind_none]
      | cons d cs =>
          have hnext : (p.skip 1).rest = d :: cs := by rw [Place.skip_rest, hrest]; rfl
          split
          · rw [Option.bind_some]
            refine ih (by rw [hnext]; simp) ?_
            rw [hnext]
            rw [hrest, List.getLast?_cons_cons] at hlast
            exact hlast
          · rfl

theorem behindRight_none (hne : p.rest ≠ [])
    (hlast : ∀ c ∈ p.rest.getLast?, isBlank c = false) : behindRight p = none := by
  rw [behindRight, run_all_cons]
  exact run_blanks_none hne hlast

/-! ## The right operand -/

def rightPart : Regex := .group "right" (.some1Lazy (.one .inLine))

theorem holds_inLine {c : Char} {cs : List Char} (hline : '\n' ∉ cs) (hc : c ∈ cs) :
    CharClass.inLine.holds c = true := by
  have hne : c ≠ '\n' := fun heq => hline (heq ▸ hc)
  simpa [CharClass.holds] using hne

/-- A right operand is all that is left: behind any shorter one its last
character would be left over. -/
theorem run_right {cs : List Char} (hne : cs ≠ []) (hinLine : '\n' ∉ cs)
    (hends : ∀ c ∈ cs.getLast?, isBlank c = false) (hrest : p.rest = cs) :
    run rightPart p behindRight =
      some (p.marked cs.length (("right", cs) :: p.groups)) := by
  rw [rightPart, run_group, run_some1Lazy]
  cases cs with
  | nil => exact absurd rfl hne
  | cons c cs =>
      have hnext : (p.skip 1).rest = cs ++ [] := by rw [Place.skip_rest, hrest]; simp
      have hline : ∀ d ∈ c :: cs, CharClass.inLine.holds d = true :=
        fun d hd => holds_inLine hinLine hd
      rw [Place.step?_cons _ hrest, if_pos (hline c List.mem_cons_self), Option.bind_some]
      refine run_manyLazy_until hnext (fun d hd => hline d (List.mem_cons_of_mem c hd))
        (fun i hi => ?_) ?_
      · have hleft : (p.keep "right" ((p.skip 1).skip i)).rest = cs.drop i := by
          show (p.skip 1).rest.drop i = _
          rw [hnext, List.append_nil]
        refine behindRight_none ?_ ?_
        · rw [hleft]
          exact List.ne_nil_of_length_pos (by rw [List.length_drop]; omega)
        · intro d hd
          rw [hleft, List.getLast?_drop, if_neg (by omega)] at hd
          refine hends d ?_
          rw [List.getLast?_cons, hd]
          rfl
      · have hkeep : p.keep "right" ((p.skip 1).skip cs.length) =
            p.marked (c :: cs).length (("right", c :: cs) :: p.groups) := by
          rw [Place.skip_skip, Nat.add_comm, Place.skip_eq_marked, Place.keep_marked, hrest,
            ← List.length_cons, List.take_length]
        rw [hkeep]
        refine behindRight_end ?_
        rw [Place.marked_rest, hrest, List.drop_length]

/-! ## The operator -/

theorem run_first_cons {r s : Regex} {rs : List Regex} :
    run (.first (r :: s :: rs)) p k = (run r p k).or (run (.first (s :: rs)) p k) := by
  rw [Regex.first, run_alt]
  simp

/-- Of several words the first is taken that the text begins with. -/
theorem run_first_word {word tail : List Char} : ∀ {front back : List (List Char)},
    (∀ w ∈ front, afterPhrase? w p.rest = none) → p.rest = word ++ tail →
    k (p.skip word.length) = some q →
    run (.first ((front ++ word :: back).map Regex.literal)) p k = some q := by
  intro front
  induction front with
  | nil =>
      intro back _ hrest hk
      have hword : run (.literal word) p k = some q := by
        rw [run_literal, afterPhrase?_eq_some.2 hrest, Option.bind_some, hk]
      cases back with
      | nil => exact hword
      | cons w back =>
          rw [List.nil_append, List.map_cons, List.map_cons, run_first_cons, hword,
            Option.some_or]
  | cons w front ih =>
      intro back hfront hrest hk
      have hnone : run (.literal w) p k = none := by
        rw [run_literal, hfront w List.mem_cons_self, Option.bind_none]
      have hnext : run (.first ((front ++ word :: back).map Regex.literal)) p k = some q :=
        ih (fun v hv => hfront v (List.mem_cons_of_mem w hv)) hrest hk
      cases front with
      | nil =>
          rw [List.cons_append, List.nil_append, List.map_cons, List.map_cons, run_first_cons,
            hnone, Option.none_or]
          exact hnext
      | cons v front =>
          rw [List.cons_append, List.cons_append, List.map_cons, List.map_cons, run_first_cons,
            hnone, Option.none_or]
          exact hnext

/-- The operators that are tried before another begin no text in which that
other is not followed by an equals sign. -/
theorem operator_first (op : Comparison) {tail : List Char} (htail : tail.head? ≠ some '=') :
    ∃ front back, Comparison.every.map (·.toText.toList) = front ++ op.toText.toList :: back ∧
      ∀ w ∈ front, afterPhrase? w (op.toText.toList ++ tail) = none := by
  have hequals : ∀ ws, afterPhrase? ('=' :: ws) tail = none := by
    intro ws
    cases tail with
    | nil => rfl
    | cons c tail =>
        rw [afterPhrase?, if_neg]
        rintro rfl
        exact htail rfl
  cases op with
  | identical => exact ⟨[], _, rfl, by simp⟩
  | distinct => exact ⟨[['=', '=', '=']], _, rfl, by simp [Comparison.toText, afterPhrase?]⟩
  | equal =>
      exact ⟨[['=', '=', '='], ['!', '=', '=']], _, rfl,
        by simp [Comparison.toText, afterPhrase?, hequals]⟩
  | different =>
      exact ⟨[['=', '=', '='], ['!', '=', '='], ['=', '=']], _, rfl,
        by simp [Comparison.toText, afterPhrase?, hequals]⟩
  | atMost =>
      exact ⟨[['=', '=', '='], ['!', '=', '='], ['=', '='], ['!', '=']], _, rfl,
        by simp [Comparison.toText, afterPhrase?]⟩
  | atLeast =>
      exact ⟨[['=', '=', '='], ['!', '=', '='], ['=', '='], ['!', '='], ['<', '=']], _, rfl,
        by simp [Comparison.toText, afterPhrase?]⟩
  | less =>
      exact ⟨[['=', '=', '='], ['!', '=', '='], ['=', '='], ['!', '='], ['<', '='], ['>', '=']],
        _, rfl, by simp [Comparison.toText, afterPhrase?, hequals]⟩
  | greater =>
      exact ⟨[['=', '=', '='], ['!', '=', '='], ['=', '='], ['!', '='], ['<', '='], ['>', '='],
        ['<']], _, rfl, by simp [Comparison.toText, afterPhrase?, hequals]⟩

theorem run_comparing_none (h : ∀ c ∈ p.rest.head?, c ∉ ['<', '>', '=']) :
    run (.oneOf comparing) p k = none := by
  rw [oneOf]
  cases hrest : p.rest with
  | nil => exact run_one_nil _ hrest
  | cons c cs =>
      have hc := h c (by rw [hrest]; rfl)
      simp only [List.mem_cons, List.not_mem_nil, or_false, not_or] at hc
      rw [run_one_cons _ hrest, if_neg]
      simp [CharClass.holds, Member.holds, comparing, Ne.symm hc.1, Ne.symm hc.2.1,
        Ne.symm hc.2.2]

/-- An operator is read as it was printed, if nothing behind it could belong
to a longer one. -/
theorem run_operator (op : Comparison) {tail : List Char}
    (hrest : p.rest = op.toText.toList ++ tail) (htail : ∀ c ∈ tail.head?, c ∉ ['<', '>', '='])
    (hk : k (p.skip op.toText.toList.length) = some q) : run operatorPart p k = some q := by
  have hequals : tail.head? ≠ some '=' := fun h => absurd (htail '=' h) (by simp)
  obtain ⟨front, back, hevery, hfront⟩ := operator_first op hequals
  have hwords : Comparison.every.map (fun op => Regex.literal op.toText.toList) =
      (front ++ op.toText.toList :: back).map Regex.literal := by
    rw [← hevery, List.map_map]
    rfl
  rw [← hrest] at hfront
  rw [operatorPart, run_first_cons]
  refine Option.or_eq_some_iff.2 (.inl ?_)
  rw [run_all_cons, hwords]
  refine run_first_word hfront hrest ?_
  have hbehind : (p.skip op.toText.toList.length).rest = tail := by
    rw [Place.skip_rest, hrest, List.drop_left]
  rw [run_all_cons, run_ahead, run_comparing_none (by rw [hbehind]; exact htail)]
  simpa using hk

theorem run_first_none : ∀ {rs : List Regex}, rs ≠ [] → (∀ r ∈ rs, run r p k = none) →
    run (.first rs) p k = none := by
  intro rs
  induction rs with
  | nil => intro hne _; exact absurd rfl hne
  | cons r rs ih =>
      intro _ hrs
      cases rs with
      | nil => exact hrs r List.mem_cons_self
      | cons s rs =>
          rw [run_first_cons, hrs r List.mem_cons_self, Option.none_or]
          exact ih (by simp) fun t ht => hrs t (List.mem_cons_of_mem r ht)

theorem operator_head (op : Comparison) :
    ∃ c cs, op.toText.toList = c :: cs ∧ c ∈ operatorChars ∧ isBlank c = false := by
  cases op <;> exact ⟨_, _, rfl, by decide, by decide⟩

/-- No operator begins with another character, nor at the end of the text. -/
theorem run_operator_none (h : ∀ c ∈ p.rest.head?, c ∉ operatorChars) :
    run operatorPart p k = none := by
  have hword : ∀ op k, run (.literal (Comparison.toText op).toList) p k = none := by
    intro op k
    obtain ⟨c, cs, hop, hc, _⟩ := operator_head op
    rw [run_literal, hop]
    cases hrest : p.rest with
    | nil => rfl
    | cons d ds =>
        have hd := h d (by rw [hrest]; rfl)
        rw [afterPhrase?, if_neg (by rintro rfl; exact hd hc), Option.bind_none]
  have hknown : ∀ k, run (.first (Comparison.every.map fun op => .literal op.toText.toList)) p k =
      none := by
    intro k
    refine run_first_none (by decide) fun r hr => ?_
    obtain ⟨op, _, rfl⟩ := List.mem_map.1 hr
    exact hword op k
  have hother : run (.some1 (.oneOf (.one '!' :: comparing))) p k = none := by
    rw [oneOf, run_some1]
    cases hrest : p.rest with
    | nil => rw [Place.step?_nil _ hrest, Option.bind_none]
    | cons d ds =>
        have hd := h d (by rw [hrest]; rfl)
        simp only [operatorChars, List.mem_cons, List.not_mem_nil, or_false, not_or] at hd
        rw [Place.step?_cons _ hrest, if_neg, Option.bind_none]
        simp [CharClass.holds, Member.holds, comparing, Ne.symm hd.1, Ne.symm hd.2.1,
          Ne.symm hd.2.2.1, Ne.symm hd.2.2.2]
  rw [operatorPart, run_first_cons, run_all_cons, hknown, Option.none_or]
  exact hother

/-! ## Behind the left operand -/

/-- An operator and its right operand. -/
def comparison : Regex :=
  .all [.group "operator" operatorPart, .many .blank, rightPart]

def behindLeft : Continue :=
  fun q => run (.all [.many .blank, .optional comparison, .many .blank]) q atEnd

theorem run_blanks {n : Nat} {tail : List Char} (hrest : p.rest = spaces n ++ tail)
    (htail : ∀ c ∈ tail.head?, isBlank c = false) (hk : k (p.skip n) = some q) :
    run (.many .blank) p k = some q := by
  refine run_many_all hrest (fun c hc => ?_) (fun c hc => ?_) ?_
  · rw [holds_blank, spaces_blank hc]
  · rw [holds_blank, htail c hc]
  · rw [spaces, List.length_replicate]
    exact hk

theorem run_comparison_none (h : ∀ c ∈ p.rest.head?, c ∉ operatorChars) :
    run comparison p k = none := by
  rw [comparison, run_all_cons, run_group, run_operator_none h]

/-- Behind the left operand there is no place for a character that is neither
blank nor part of an operator. -/
theorem behindLeft_none {c : Char} {cs : List Char} (hrest : p.rest = c :: cs)
    (hblank : isBlank c = false) (hc : c ∉ operatorChars) : behindLeft p = none := by
  have hblanks : ∀ k, run (.many .blank) p k = k p := by
    intro k
    rw [Regex.blank, run_many, Place.step?_cons _ hrest, holds_blank, hblank,
      if_neg Bool.false_ne_true, Option.bind_none, Option.none_or]
  have hhead : ∀ d ∈ p.rest.head?, d ∉ operatorChars := by
    rw [hrest]
    rintro d ⟨⟩
    exact hc
  rw [behindLeft, run_all_cons, hblanks, run_all_cons,
    run_optional_none (run_comparison_none hhead), run_all_cons, hblanks, run_all_nil, atEnd,
    if_neg (by rw [hrest]; simp)]

/-- At the end of the text there is nothing to compare with. -/
theorem behindLeft_end (hrest : p.rest = []) : behindLeft p = some p := by
  have hhead : ∀ d ∈ p.rest.head?, d ∉ operatorChars := by
    rw [hrest]
    simp
  have hnone : p.rest = spaces 0 ++ [] := hrest
  rw [behindLeft, run_all_cons]
  refine run_blanks hnone (by simp) ?_
  rw [Place.skip_zero, run_all_cons, run_optional_none (run_comparison_none hhead)]
  exact behindRight_end hrest

/-- The operator and the right operand are read as they were printed. -/
theorem behindLeft_comparison (op : Comparison) {right : List Char} {front back : Nat}
    (h : RightOperand right)
    (hrest : p.rest = spaces front ++ (op.toText.toList ++ (spaces back ++ right))) :
    behindLeft p = some (p.marked p.rest.length
      (("right", right) :: ("operator", op.toText.toList) :: p.groups)) := by
  obtain ⟨c, cs, hop, _, hc⟩ := operator_head op
  have hoperator : (p.skip front).rest = op.toText.toList ++ (spaces back ++ right) := by
    rw [Place.skip_rest, hrest, List.drop_left' (by rw [spaces, List.length_replicate])]
  have hafter : ∀ d ∈ (spaces back ++ right).head?, d ∉ ['<', '>', '='] := by
    cases back with
    | zero => exact fun d hd => (h.begins d hd).2
    | succ n =>
        rintro d ⟨⟩
        decide
  rw [behindLeft, run_all_cons]
  refine run_blanks hrest (by rw [hop]; rintro d ⟨⟩; exact hc) ?_
  rw [run_all_cons]
  refine run_optional_some ?_
  rw [comparison, run_all_cons, run_group]
  refine run_operator op hoperator hafter ?_
  rw [Place.skip_eq_marked (p.skip front), Place.keep_marked, hoperator, List.take_left,
    Place.skip_eq_marked p, Place.marked_marked, Place.marked_groups, run_all_cons]
  generalize hmid : p.marked (front + op.toText.toList.length) _ = mid
  have hmidRest : mid.rest = spaces back ++ right := by
    rw [← hmid, Place.marked_rest, ← List.drop_drop, ← Place.skip_rest, hoperator, List.drop_left]
  refine run_blanks hmidRest (fun d hd => (h.begins d hd).1) ?_
  have hright : (mid.skip back).rest = right := by
    rw [Place.skip_rest, hmidRest, List.drop_left' (by rw [spaces, List.length_replicate])]
  have hend : ∀ q, run (.all []) q (fun q => run (.all [.many .blank]) q atEnd) =
      behindRight q := fun q => run_all_nil
  rw [run_all_cons]
  simp only [hend]
  rw [run_right h.nonempty h.inLine h.ends hright, ← hmid, Place.skip_eq_marked, Place.marked_marked, Place.marked_marked,
    Place.marked_groups, Place.marked_groups, hrest]
  simp [spaces, Nat.add_assoc]

/-! ## The left operand -/

/-- What is taken whole where the left operand stands. Apart from a left
operand that is printed this is a word with a mark of its own. -/
inductive LeftText : List Char → Prop
  | operand {cs : List Char} : LeftOperand cs → LeftText cs
  | marked {cs : List Char} : (∀ d ∈ cs, isBlank d = false ∧ d ∉ operatorChars) →
      LeftText ('!' :: cs)

theorem holds_leftChar {c : Char} (hblank : isBlank c = false) (hc : c ∉ ['<', '>', '=']) :
    (CharClass.set true (.blank false :: comparing)).holds c = true := by
  simp only [List.mem_cons, List.not_mem_nil, or_false, not_or] at hc
  simp [CharClass.holds, Member.holds, comparing, hblank, Ne.symm hc.1, Ne.symm hc.2.1,
    Ne.symm hc.2.2]

theorem not_comparing {c : Char} (hc : c ∉ operatorChars) : c ∉ ['<', '>', '='] :=
  fun h => hc (List.mem_append_left ['!'] h)

/-- No quotation begins with another character. -/
theorem run_quotedOperand_none {q : Char} (h : p.rest.head? ≠ some q) :
    run (quotedOperand q) p k = none :=
  run_all_char_none h

/-- Without quotes as few characters as possible are taken, and behind any
shorter word one of its own characters would be left over. -/
theorem run_left_word {c : Char} {cs tail : List Char} (hdouble : c ≠ '"') (hsingle : c ≠ '\'')
    (hc : (CharClass.set true (.blank false :: comparing)).holds c = true)
    (hplain : ∀ d ∈ cs, isBlank d = false ∧ d ∉ operatorChars) (hrest : p.rest = c :: cs ++ tail)
    (hk : behindLeft (p.marked (c :: cs).length (("left", c :: cs) :: p.groups)) = some q) :
    run (.group "left" leftPart) p behindLeft = some q := by
  have hnext : (p.skip 1).rest = cs ++ tail := by rw [Place.skip_rest, hrest]; rfl
  rw [run_group, leftPart, run_first_cons, run_first_cons,
    run_quotedOperand_none (by rw [hrest]; simpa using hdouble),
    run_quotedOperand_none (by rw [hrest]; simpa using hsingle), Option.none_or, Option.none_or,
    Regex.first, noneOf, run_some1Lazy, Place.step?_cons _ hrest, if_pos hc, Option.bind_some]
  refine run_manyLazy_until hnext (fun d hd => holds_leftChar (hplain d hd).1
    (not_comparing (hplain d hd).2)) (fun i hi => ?_) ?_
  · have hleft : (p.keep "left" ((p.skip 1).skip i)).rest = cs[i] :: (cs ++ tail).drop (i + 1) := by
      show (p.skip 1).rest.drop i = _
      rw [hnext, List.drop_eq_getElem_cons (by rw [List.length_append]; omega),
        List.getElem_append_left hi]
    obtain ⟨hblank, hchar⟩ := hplain cs[i] (List.getElem_mem hi)
    exact behindLeft_none hleft hblank hchar
  · rw [Place.skip_skip, Nat.add_comm, Place.skip_eq_marked, Place.keep_marked, hrest,
      ← List.length_cons, List.take_left]
    exact hk

theorem run_left {cs : List Char} {tail : List Char} (h : LeftText cs)
    (hrest : p.rest = cs ++ tail)
    (hk : behindLeft (p.marked cs.length (("left", cs) :: p.groups)) = some q) :
    run (.group "left" leftPart) p behindLeft = some q := by
  cases h with
  | marked hplain => exact run_left_word (by decide) (by decide) (by decide) hplain hrest hk
  | operand h =>
      cases h with
      | @word c cs hdouble hsingle hplain =>
          obtain ⟨hblank, hc⟩ := hplain c List.mem_cons_self
          exact run_left_word hdouble hsingle (holds_leftChar hblank (not_comparing hc))
            (fun d hd => hplain d (List.mem_cons_of_mem c hd)) hrest hk
      | @quotation d cs hquote hinside =>
          have hrest' : p.rest = d :: (cs ++ d :: tail) := by rw [hrest]; simp
          have hread : run (quotedOperand d) p (fun q => behindLeft (p.keep "left" q)) =
              some q := by
            refine run_enclosed hrest' (fun c hc => ?_) ?_ ?_
            · have hne : d ≠ c := fun heq => hinside (heq ▸ hc)
              simp [CharClass.holds, Member.holds, hne]
            · simp [CharClass.holds, Member.holds]
            · have hlength : (d :: (cs ++ [d])).length = cs.length + 2 := by simp
              rw [← hlength, Place.skip_eq_marked, Place.keep_marked, hrest, List.take_left]
              exact hk
          rw [run_group, leftPart, run_first_cons, run_first_cons]
          rcases hquote with rfl | rfl
          · rw [hread, Option.some_or]
          · rw [run_quotedOperand_none (by rw [hrest']; rintro ⟨⟩), hread, Option.none_or,
              Option.some_or]

theorem LeftOperand.head {cs : List Char} (h : LeftOperand cs) :
    ∃ c rest, cs = c :: rest ∧ isBlank c = false ∧ c ≠ '!' := by
  cases h with
  | @word c cs _ _ hplain =>
      obtain ⟨hblank, hc⟩ := hplain c List.mem_cons_self
      exact ⟨c, cs, rfl, hblank, fun heq => hc (heq ▸ by decide)⟩
  | @quotation q cs hquote _ =>
      refine ⟨q, cs ++ [q], rfl, ?_⟩
      rcases hquote with rfl | rfl <;> decide

theorem LeftText.head {cs : List Char} (h : LeftText cs) :
    ∃ c rest, cs = c :: rest ∧ isBlank c = false := by
  cases h with
  | operand h =>
      obtain ⟨c, rest, hcs, hblank, _⟩ := h.head
      exact ⟨c, rest, hcs, hblank⟩
  | @marked cs _ => exact ⟨'!', cs, rfl, by decide⟩

theorem LeftOperand.last {cs : List Char} (h : LeftOperand cs) :
    ∀ c ∈ cs.getLast?, isBlank c = false := by
  intro c hc
  cases h with
  | word _ _ hplain => exact (hplain c (List.mem_of_getLast? hc)).1
  | quotation hquote _ =>
      rw [← List.cons_append, List.getLast?_concat] at hc
      cases hc
      rcases hquote with rfl | rfl <;> decide

/-! ## A whole condition -/

def mark (c : Condition) : List Char := if c.negated then ['!'] else []

/-- A text without a mark in front is read from its left operand on. -/
theorem run_unmarked (hhead : p.rest.head? ≠ some '!') : run pattern p atEnd =
    run (.group "left" leftPart) (p.marked 0 (("negation", []) :: p.groups)) behindLeft := by
  have hkeep : p.keep "negation" p = p.marked 0 (("negation", []) :: p.groups) := by
    have h := p.keep_marked "negation" 0 p.groups
    rwa [List.take_zero, ← Place.skip_eq_marked, Place.skip_zero] at h
  have hpattern : pattern = .all [.group "negation" (.optional (.one (.one '!'))),
    .group "left" leftPart, .many .blank, .optional comparison, .many .blank] := rfl
  rw [hpattern, run_all_cons, run_group, run_optional_none (by rw [run_char, if_neg hhead]), hkeep,
    run_all_cons]
  rfl

/-- A mark in front is taken, if the rest succeeds behind it. -/
theorem run_negated (hhead : p.rest.head? = some '!')
    (hk : run (.group "left" leftPart) (p.marked 1 (("negation", ['!']) :: p.groups)) behindLeft =
      some q) : run pattern p atEnd = some q := by
  have hpattern : pattern = .all [.group "negation" (.optional (.one (.one '!'))),
    .group "left" leftPart, .many .blank, .optional comparison, .many .blank] := rfl
  have htake : p.rest.take 1 = ['!'] := by
    obtain ⟨cs, hcs⟩ := List.head?_eq_some_iff.1 hhead
    rw [hcs]
    rfl
  rw [hpattern, run_all_cons, run_group]
  refine run_optional_some ?_
  rw [run_char, if_pos hhead, Place.skip_eq_marked, Place.keep_marked, htake, run_all_cons]
  exact hk

/-- What may stand where the left operand of a condition does: a word with a
mark of its own only behind the mark of the condition. -/
structure Fronted (c : Condition) : Prop where
  left : LeftText c.left.toList
  head : c.negated = false → c.left.toList.head? ≠ some '!'

/-- A whole condition is read if what stands behind the left operand is. -/
theorem run_pattern {c : Condition} {tail : List Char} {groups : List (String × List Char)}
    (hleft : c.Fronted) (hrest : p.rest = c.mark ++ (c.left.toList ++ tail))
    (hk : ∀ r : Place, r.rest = tail →
      behindLeft r = some (r.marked tail.length (groups ++ r.groups))) :
    run pattern p atEnd = some (p.marked p.rest.length
      (groups ++ ("left", c.left.toList) :: ("negation", c.mark) :: p.groups)) := by
  have hbehind : ∀ r : Place, r.rest = c.left.toList ++ tail →
      run (.group "left" leftPart) r behindLeft = some (r.marked (c.left.toList ++ tail).length
        (groups ++ ("left", c.left.toList) :: r.groups)) := by
    intro r hr
    refine run_left hleft.left hr ?_
    rw [hk _ (by rw [Place.marked_rest, hr, List.drop_left]), Place.marked_marked,
      List.length_append, Place.marked_groups]
  cases hnegated : c.negated with
  | true =>
      rw [mark, hnegated, if_pos rfl] at hrest
      refine run_negated (by rw [hrest]; rfl) ((hbehind _ ?_).trans ?_)
      · rw [Place.marked_rest, hrest]
        rfl
      · rw [Place.marked_marked, Place.marked_groups, mark, hnegated, if_pos rfl, hrest]
        simp [Nat.add_comm]
  | false =>
      rw [mark, hnegated, if_neg Bool.false_ne_true, List.nil_append] at hrest
      have hhead : p.rest.head? ≠ some '!' := by
        obtain ⟨d, ds, hd, _⟩ := hleft.left.head
        have hne := hleft.head hnegated
        rw [hd] at hne
        rw [hrest, hd]
        simpa using hne
      refine (run_unmarked hhead).trans ((hbehind _ ?_).trans ?_)
      · rw [Place.marked_rest, List.drop_zero, hrest]
      · rw [Place.marked_marked, Place.marked_groups, Nat.zero_add, ← hrest, mark, hnegated,
          if_neg Bool.false_ne_true]

end

/-- Blanks around a condition do not matter to what is read. -/
theorem read?_trim (cs : List Char) : read? (trim cs) = read? cs := by
  rw [read?, trim_trim, read?]

theorem read?_of_run {cs : List Char} {groups : List (String × List Char)}
    (h : run pattern (Place.ofText (trim cs)) atEnd =
      some ((Place.ofText (trim cs)).marked (trim cs).length groups)) :
    read? cs = some ⟨((groups.lookup "left").map String.ofList).getD "",
      (groups.lookup "negation").map String.ofList == some "!",
      (groups.lookup "operator").map String.ofList, (groups.lookup "right").map String.ofList⟩ := by
  have hmatch : pattern.fullMatch? (trim cs) = (some ((Place.ofText (trim cs)).marked
      (trim cs).length groups)).map (Match.between (Place.ofText (trim cs))) :=
    congrArg (Option.map _) h
  rw [read?, hmatch]
  rfl

theorem mark_last {c : Condition} {tail : List Char} (h : tail ≠ []) :
    (c.mark ++ tail).getLast? = tail.getLast? := by
  rw [List.getLast?_append]
  cases tail with
  | nil => exact absurd rfl h
  | cons d ds => simp [List.getLast?_cons]

/-- Spaces around a condition do not matter, as the condition has none of its
own there. -/
theorem trim_printed {c : Condition} (hleft : LeftText c.left.toList) {tail : List Char}
    (hlast : ∀ d ∈ (c.left.toList ++ tail).getLast?, isBlank d = false) (lead trail : Nat) :
    trim (spaces lead ++ (c.mark ++ (c.left.toList ++ tail)) ++ spaces trail) =
      c.mark ++ (c.left.toList ++ tail) := by
  obtain ⟨d, ds, hd, hblank⟩ := hleft.head
  have hlast' : ∀ e ∈ (c.mark ++ (c.left.toList ++ tail)).getLast?, isBlank e = false := by
    rwa [mark_last (by rw [hd]; simp)]
  refine trimWhile_padded (fun _ => spaces_blank) (fun _ => spaces_blank) ?_ hlast'
  cases hnegated : c.negated with
  | true =>
      rw [mark, hnegated]
      rintro e ⟨⟩
      decide
  | false =>
      rw [mark, hnegated, hd]
      rintro e ⟨⟩
      exact hblank

/-- Reading a condition gives its left operand and what the text behind that
is read as. -/
theorem read?_fronted {c : Condition} {tail : List Char} {groups : List (String × List Char)}
    (hleft : c.Fronted)
    (hlast : ∀ d ∈ (c.left.toList ++ tail).getLast?, isBlank d = false)
    (hk : ∀ r : Place, r.rest = tail →
      behindLeft r = some (r.marked tail.length (groups ++ r.groups)))
    (hgroups : groups.lookup "left" = none ∧ groups.lookup "negation" = none)
    (lead trail : Nat) :
    read? (spaces lead ++ (c.mark ++ (c.left.toList ++ tail)) ++ spaces trail) =
      some ⟨c.left, c.negated, (groups.lookup "operator").map String.ofList,
        (groups.lookup "right").map String.ofList⟩ := by
  have htrim := trim_printed hleft.left hlast lead trail
  have hrun := run_pattern (p := Place.ofText (c.mark ++ (c.left.toList ++ tail))) hleft rfl hk
  rw [← htrim] at hrun
  rw [read?_of_run hrun]
  have hmark : (some (String.ofList c.mark) == some "!") = c.negated := by
    rw [mark]
    cases c.negated <;> decide
  simp [List.lookup_append, hgroups.1, hgroups.2, List.lookup_cons, Place.ofText, hmark]

theorem LeftOperand.fronted {c : Condition} (h : LeftOperand c.left.toList) : c.Fronted := by
  obtain ⟨d, ds, hd, _, hne⟩ := h.head
  refine ⟨.operand h, fun _ => ?_⟩
  rw [hd]
  simpa using hne

theorem read?_printed {c : Condition} {tail : List Char} {groups : List (String × List Char)}
    (hleft : LeftOperand c.left.toList)
    (hlast : ∀ d ∈ (c.left.toList ++ tail).getLast?, isBlank d = false)
    (hk : ∀ r : Place, r.rest = tail →
      behindLeft r = some (r.marked tail.length (groups ++ r.groups)))
    (hgroups : groups.lookup "left" = none ∧ groups.lookup "negation" = none)
    (lead trail : Nat) :
    read? (spaces lead ++ (c.mark ++ (c.left.toList ++ tail)) ++ spaces trail) =
      some ⟨c.left, c.negated, (groups.lookup "operator").map String.ofList,
        (groups.lookup "right").map String.ofList⟩ :=
  read?_fronted hleft.fronted hlast hk hgroups lead trail

/-- Two operands and an operator between them, with any number of spaces
around it. -/
theorem read?_compared {left right : List Char} (op : Comparison) (hleft : LeftOperand left)
    (hright : RightOperand right) (front back : Nat) :
    read? (left ++ (spaces front ++ (op.toText.toList ++ (spaces back ++ right)))) =
      some ⟨String.ofList left, false, some op.toText, some (String.ofList right)⟩ := by
  have hlast : ∀ d ∈ (left ++ (spaces front ++ (op.toText.toList ++
      (spaces back ++ right)))).getLast?, isBlank d = false := by
    obtain ⟨d, hd⟩ := Option.isSome_iff_exists.1 (List.getLast?_isSome.2 hright.nonempty)
    simp only [List.getLast?_append, hd, Option.some_or]
    rintro e ⟨⟩
    exact hright.ends d hd
  have hbehind : ∀ r : Place,
      r.rest = spaces front ++ (op.toText.toList ++ (spaces back ++ right)) →
        behindLeft r = some (r.marked r.rest.length
          ([("right", right), ("operator", op.toText.toList)] ++ r.groups)) :=
    fun r hr => behindLeft_comparison op hright hr
  rw [← String.toList_ofList (l := left)] at hleft hlast
  have hread := read?_printed (c := ⟨String.ofList left, false, none, none⟩) hleft hlast
    (fun r hr => by rw [hbehind r hr, hr]) ⟨rfl, rfl⟩ 0 0
  simpa [mark, spaces, List.lookup_cons] using hread

/-- A condition is read back as it was, whatever number of spaces it is
printed with. -/
theorem parse_print {c : Condition} (h : c.Printable) (lead front back trail : Nat) :
    parse (c.print lead front back trail) = .ok c := by
  have hread : read? (spaces lead ++ c.printInner front back ++ spaces trail) = some c := by
    obtain ⟨hleft, hcomparand⟩ := h
    obtain ⟨left, negated, operator, right⟩ := c
    cases hcomparand with
    | none =>
        have hlast : ∀ d ∈ (left.toList ++ []).getLast?, isBlank d = false := by
          rw [List.append_nil]
          exact hleft.last
        have hbehind : ∀ r : Place, r.rest = [] →
            behindLeft r = some (r.marked 0 ([] ++ r.groups)) := fun r hr => behindLeft_end hr
        have hparts := read?_printed (c := ⟨left, negated, none, none⟩) hleft hlast hbehind
          ⟨rfl, rfl⟩ lead (front + (back + trail))
        have htext : spaces lead ++ printInner ⟨left, negated, none, none⟩ front back ++
            spaces trail = spaces lead ++ (mark ⟨left, negated, none, none⟩ ++
              (left.toList ++ [])) ++ spaces (front + (back + trail)) := by
          simp [printInner, mark, spaces, ← List.replicate_append_replicate]
        rw [htext, hparts]
        rfl
    | @compared op right hright =>
        have hlast : ∀ d ∈ (left.toList ++ (spaces front ++ (op.toText.toList ++
            (spaces back ++ right.toList)))).getLast?, isBlank d = false := by
          obtain ⟨d, hd⟩ := List.getLast?_isSome.2 hright.nonempty |> Option.isSome_iff_exists.1
          simp only [List.getLast?_append, hd, Option.some_or]
          rintro e ⟨⟩
          exact hright.ends _ hd
        have hbehind : ∀ r : Place, r.rest = spaces front ++ (op.toText.toList ++
            (spaces back ++ right.toList)) → behindLeft r = some (r.marked r.rest.length
              ([("right", right.toList), ("operator", op.toText.toList)] ++ r.groups)) :=
          fun r hr => behindLeft_comparison op hright hr
        have hparts := read?_printed (c := ⟨left, negated, some op.toText, some right⟩) hleft hlast
          (fun r hr => by rw [hbehind r hr, hr]) ⟨rfl, rfl⟩ lead trail
        have htext : printInner ⟨left, negated, some op.toText, some right⟩ front back =
            mark ⟨left, negated, some op.toText, some right⟩ ++ (left.toList ++ (spaces front ++
              (op.toText.toList ++ (spaces back ++ right.toList)))) := by
          simp [printInner, mark]
        rw [htext, hparts]
        simp [List.lookup_cons]
  rw [print, parse, String.toList_ofList, hread]

/-- A negated quotation that holds operators, compared with an operand that
begins like one. -/
theorem parse_print_quotation :
    Printable ⟨"\"a == 'b'\"", true, some "<", some "!=c"⟩ ∧
      parse "  !\"a == 'b'\"< !=c " = .ok ⟨"\"a == 'b'\"", true, some "<", some "!=c"⟩ := by
  have h : Printable ⟨"\"a == 'b'\"", true, some "<", some "!=c"⟩ := by
    have hinside : '"' ∉ "a == 'b'".toList := by decide
    refine ⟨LeftOperand.quotation (.inl rfl) hinside,
      .compared .less ⟨by decide, by decide, ?_, ?_⟩⟩
    · rintro c ⟨⟩
      decide
    · rintro c ⟨⟩
      decide
  exact ⟨h, parse_print h 2 0 1 1⟩

end Stencil.Condition
