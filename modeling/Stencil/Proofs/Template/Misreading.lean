import Stencil.Proofs.Template.Operand
import Stencil.Proofs.Template.OperatorRun

/-!
# Damaged operators

What becomes of a condition in which a run of operator characters is no
operator, or in which nothing stands behind an operator. It is refused,
except where the run can be divided into an operator and something that is
taken for the right operand: `Misread` lists these runs with the value that
the left operand is compared with.

There are two sorts of them. An exclamation mark behind an operator belongs
to the right operand even if comparing characters follow it, and without a
right operand the last character of a run becomes one if the characters in
front of it are an operator. That there are no others is
`evaluateText_operatorRun`.
-/

namespace Stencil.Condition

open Stencil.Regex Stencil.Text Stencil.TagPattern

/-- A run that is compared although it is no operator, or although nothing
stands behind it, with the operator and the right value it is taken for. -/
inductive Misread (ops more : List Char) : Comparison → Value → Prop
  | divided {op : Comparison} {back : List Char} : ops = op.toText.toList ++ '!' :: back →
      (∃ c ∈ back, c ≠ '!') → '\n' ∉ trim more → Misread ops more op (.bool false)
  | shortened {op : Comparison} {c : Char} : ops = op.toText.toList ++ [c] → c ≠ '!' → more = [] →
      Misread ops more op (Value.ofChars [c])

/-! ## Reading -/

section

variable {left ops body more : List Char}

/-- The text of a condition with a run behind its left operand. -/
def runText (left ops body : List Char) : List Char := left ++ ' ' :: (ops ++ body)

theorem runText_last (hops : OperatorRun ops) (hbody : BehindRun body) :
    ∀ d ∈ (runText left ops body).getLast?, isBlank d = false := by
  rw [runText, List.getLast?_append_of_ne_nil _ (by simp),
    List.getLast?_cons_of_ne_nil (by simp [hops.nonempty])]
  exact hops.append_ends hbody

/-- What the text behind a bare left operand is read as decides the rest. -/
theorem read?_runText (groups : List (String × List Char)) (hleft : BareOperand left)
    (hops : OperatorRun ops) (hbody : BehindRun body)
    (hbehind : ∀ r : Place, r.rest = spaces 1 ++ (ops ++ body) →
      behindLeft r = some (r.marked r.rest.length (groups ++ r.groups)))
    (hgroups : groups.lookup "left" = none ∧ groups.lookup "negation" = none) :
    read? (runText left ops body) = some ⟨String.ofList left, false,
      (groups.lookup "operator").map String.ofList,
      (groups.lookup "right").map String.ofList⟩ := by
  have hlast : ∀ d ∈ (runText left ops body).getLast?, isBlank d = false := runText_last hops hbody
  rw [← String.toList_ofList (l := left)] at hleft hlast
  have hread := read?_printed (c := ⟨String.ofList left, false, none, none⟩) hleft.left hlast
    (fun r hr => by rw [hbehind r hr, hr]) hgroups 0 0
  simpa [mark, spaces, runText] using hread

theorem read?_whole (hleft : BareOperand left) (hops : OperatorRun ops) (hbody : BehindRun body)
    (hundivided : Undivided ops) (hunknown : ∀ op : Comparison, ops ≠ op.toText.toList)
    (hne : body ≠ []) (hline : '\n' ∉ body) : read? (runText left ops body) =
      some ⟨String.ofList left, false, some (String.ofList ops), some (String.ofList body)⟩ := by
  rw [read?_runText [("right", body), ("operator", ops)] hleft hops hbody
    (fun r hr => behindLeft_whole hops hbody hundivided hunknown hne hline hr) ⟨rfl, rfl⟩]
  simp [List.lookup_cons]

theorem read?_short {cs : List Char} {c : Char} (hleft : BareOperand left)
    (hops : OperatorRun (cs ++ [c])) (hundivided : Undivided (cs ++ [c])) (hne : cs ≠ []) :
    read? (runText left (cs ++ [c]) []) =
      some ⟨String.ofList left, false, some (String.ofList cs), some (String.ofList [c])⟩ := by
  rw [read?_runText [("right", [c]), ("operator", cs)] hleft hops behindRun_nil
    (fun r hr => behindLeft_short hops hundivided hne (by simpa using hr)) ⟨rfl, rfl⟩]
  simp [List.lookup_cons]

/-- Blanks at the end do not matter to what is read. -/
theorem read?_runText_append {back : List Char} (hleft : BareOperand left) (hops : OperatorRun ops)
    (hbody : BehindRun body) (hback : ∀ d ∈ back, isBlank d = true) :
    read? (runText left ops (body ++ back)) = read? (runText left ops body) := by
  obtain ⟨c, cs, hcs, hblank, _⟩ := hleft.left.head
  have hfirst : ∀ d ∈ (runText left ops body).head?, isBlank d = false := by
    rw [runText, hcs]
    rintro d ⟨⟩
    exact hblank
  have hpadded : trimWhile isBlank ([] ++ runText left ops body ++ back) = runText left ops body :=
    trimWhile_padded (by simp) hback hfirst (runText_last hops hbody)
  have htrim : trim (runText left ops (body ++ back)) = runText left ops body := by
    rw [← hpadded]
    simp [trim, runText]
  rw [← read?_trim, htrim]

/-- Without a right operand in one line there is no condition. -/
theorem read?_broken (hleft : BareOperand left) (hops : OperatorRun ops) (hbody : BehindRun body)
    (hbroken : '\n' ∈ body ∨ body = [] ∧ ops.length ≤ 1) :
    read? (runText left ops body) = none := by
  obtain ⟨c, cs, hcs, hblank, hne⟩ := hleft.left.head
  have htrim : trim (runText left ops body) = runText left ops body := by
    refine trimWhile_eq_self (fun d hd => ?_) (runText_last hops hbody)
    rw [runText, hcs] at hd
    cases hd
    exact hblank
  have hnone : run pattern (Place.ofText (runText left ops body)) atEnd = none := by
    rw [Option.eq_none_iff_forall_ne_some]
    intro q hq
    have hhead : (Place.ofText (runText left ops body)).rest.head? ≠ some '!' := by
      rw [Place.ofText, runText, hcs]
      simpa using hne
    rw [run_unmarked hhead] at hq
    obtain ⟨r, hr, hbehind⟩ := left_whole hleft (by rfl) hq
    obtain ⟨hline, hright⟩ := behindLeft_some (n := 1) hops hbody hr hbehind
    rcases hbroken with hmem | ⟨hnil, hlength⟩
    · exact hline hmem
    · rcases hright with hne | hlt
      · exact hne hnil
      · omega
  rw [read?, htrim, Option.map_eq_none_iff, fullMatch?, Option.map_eq_none_iff]
  exact hnone

end

/-! ## Evaluating -/

section

variable {left ops more : List Char}

/-- What stands behind a run, and the blanks at its end. -/
theorem exists_behindRun (hmore : ∀ c ∈ more.head?, isBlank c = false ∧ c ∉ operatorChars) :
    BehindRun (trim more) ∧ ∃ back, more = trim more ++ back ∧ ∀ d ∈ back, isBlank d = true := by
  obtain ⟨back, hsplit, hback⟩ := exists_trimWhile_append fun c hc => (hmore c hc).1
  refine ⟨⟨fun c hc => hmore c ?_, (trimWhile_ends isBlank more).2⟩, back, hsplit, hback⟩
  rw [hsplit, List.head?_append]
  rw [trim, Option.mem_def] at hc
  rw [hc]
  rfl

theorem read?_runText_trim (hleft : BareOperand left) (hops : OperatorRun ops)
    (hmore : ∀ c ∈ more.head?, isBlank c = false ∧ c ∉ operatorChars) :
    read? (runText left ops more) = read? (runText left ops (trim more)) := by
  obtain ⟨hbody, back, hsplit, hback⟩ := exists_behindRun hmore
  rw [← read?_runText_append hleft hops hbody hback, ← hsplit]

theorem mark_notBehind (op : Comparison) : '!' ∉ op.toText.toList.tail := by
  cases op <;> decide

/-- No character but a mark behind an operator divides it. -/
theorem undivided_shortened {op : Comparison} {c : Char} (hne : c ≠ '!') :
    Undivided (op.toText.toList ++ [c]) := by
  intro op' back heq
  obtain ⟨d, ds, hop, _⟩ := operator_head op
  obtain ⟨d', ds', hop', _⟩ := operator_head op'
  have hmark := mark_notBehind op
  rw [hop, hop'] at heq
  rw [hop] at hmark
  have htail : ds ++ [c] = ds' ++ '!' :: back := (List.cons.inj heq).2
  have hmem : '!' ∈ ds ++ [c] := by
    rw [htail]
    simp
  simp only [List.mem_append, List.mem_singleton] at hmem
  rcases hmem with hmem | rfl
  · exact hmark hmem
  · exact hne rfl

theorem read?_divided {op : Comparison} {back body : List Char} (hleft : BareOperand left)
    (hops : OperatorRun (op.toText.toList ++ '!' :: back)) (hbody : BehindRun body)
    (hline : '\n' ∉ body) : read? (runText left (op.toText.toList ++ '!' :: back) body) =
      some ⟨String.ofList left, false, some op.toText,
        some (String.ofList ('!' :: back ++ body))⟩ := by
  have hright : RightOperand ('!' :: back ++ body) := by
    refine ⟨by simp, ?_, ?_, ?_⟩
    · intro hmem
      rcases List.mem_append.1 hmem with hmem | hmem
      · exact absurd (hops.chars '\n' (List.mem_append_right _ hmem)) (by decide)
      · exact hline hmem
    · rintro c ⟨⟩
      decide
    · intro c hc
      refine hops.append_ends hbody c ?_
      rw [List.append_assoc, List.getLast?_append_of_ne_nil _ (by simp)]
      exact hc
  have hread := read?_compared op hleft.left hright 1 0
  simpa [runText, spaces] using hread

section

variable {args : Arguments}

/-- What a misread run is compared with. -/
theorem evaluateText_misread {op : Comparison} {v : Value} (hleft : BareOperand left)
    (hops : OperatorRun ops) (hmore : ∀ c ∈ more.head?, isBlank c = false ∧ c ∉ operatorChars)
    (h : Misread ops more op v) : evaluateText (String.ofList (runText left ops more)) args =
      operand (String.ofList left) args >>= fun u => op.holds u v := by
  obtain ⟨hbody, _⟩ := exists_behindRun hmore
  have htrim := read?_runText_trim hleft hops hmore
  cases h with
  | @divided back hsplit hback hline =>
      subst hsplit
      rw [evaluateText_of_read? (htrim.trans (read?_divided hleft hops hbody hline))]
      refine holds_compared rfl rfl ?_
      obtain ⟨c, _, _⟩ := hback
      cases back with
      | nil => contradiction
      | cons d back => exact operand_markedRun (hops.chars d (by simp))
  | @shortened c hsplit hne hnil =>
      subst hsplit hnil
      obtain ⟨_, _, hop, _⟩ := operator_head op
      rw [evaluateText_of_read? (read?_short hleft hops (undivided_shortened hne)
        (by rw [hop]; simp)), String.ofList_toList]
      exact holds_compared rfl rfl (operand_run (hops.chars c (by simp)) hne)

theorem evaluateText_unknown {cs right : List Char}
    (hunknown : ∀ op : Comparison, cs ≠ op.toText.toList)
    (hread : read? (runText left ops more) = some ⟨String.ofList left, false,
      some (String.ofList cs), some (String.ofList right)⟩) :
    ∃ e, evaluateText (String.ofList (runText left ops more)) args = .error e := by
  rw [evaluateText_of_read? hread, holds_unsupported rfl (ofText?_eq_none hunknown)]
  cases operand (String.ofList left) args with
  | error e => exact ⟨e, rfl⟩
  | ok v => exact ⟨_, rfl⟩

/-- A comparison that has no right operand, or whose run is no operator and
no operator with marks behind it, is refused, but for the misread ones. -/
theorem evaluateText_operatorRun (hleft : BareOperand left) (hops : OperatorRun ops)
    (hmore : ∀ c ∈ more.head?, isBlank c = false ∧ c ∉ operatorChars)
    (hbroken : more = [] ∧ ops.getLast? ≠ some '!' ∨
      ∀ (op : Comparison) (n : Nat), ops ≠ op.toText.toList ++ List.replicate n '!')
    (args : Arguments) :
    (∀ op v, Misread ops more op v → evaluateText (String.ofList (runText left ops more)) args =
      operand (String.ofList left) args >>= fun u => op.holds u v) ∧
    ((∀ op v, ¬ Misread ops more op v) →
      ∃ e, evaluateText (String.ofList (runText left ops more)) args = .error e) := by
  refine ⟨fun op v => evaluateText_misread hleft hops hmore, fun hnone => ?_⟩
  obtain ⟨hbody, back, hsplit, hback⟩ := exists_behindRun hmore
  have htrim := read?_runText_trim hleft hops hmore
  by_cases hline : '\n' ∈ trim more
  · exact ⟨_, evaluateText_of_unread (htrim.trans (read?_broken hleft hops hbody (.inl hline)))⟩
  have hundivided : Undivided ops := by
    intro op marks heq
    refine hnone op _ (.divided heq ?_ hline)
    by_contra hall
    have hmarks : marks = List.replicate marks.length '!' := by
      refine List.eq_replicate_iff.2 ⟨rfl, fun c hc => ?_⟩
      by_contra hne
      exact hall ⟨c, hc, hne⟩
    have heq' : ops = op.toText.toList ++ List.replicate (marks.length + 1) '!' := by
      rw [List.replicate_succ, ← hmarks, heq]
    rcases hbroken with ⟨_, hlast⟩ | hunknown
    · refine hlast ?_
      rw [heq', List.getLast?_append_of_ne_nil _ (by simp), List.getLast?_replicate]
      rfl
    · exact hunknown op _ heq'
  by_cases hempty : trim more = []
  · -- Only the run itself can give the right operand a character.
    have hnil : more = [] := by
      cases hcs : more with
      | nil => rfl
      | cons c cs =>
          rw [hempty, List.nil_append] at hsplit
          have hblank := hback c (by rw [← hsplit, hcs]; simp)
          rw [(hmore c (by rw [hcs]; rfl)).1] at hblank
          cases hblank
    obtain ⟨cs, c, rfl⟩ := List.eq_nil_or_concat' ops |>.resolve_left hops.nonempty
    subst hnil
    by_cases hne : cs = []
    · subst hne
      exact ⟨_, evaluateText_of_unread (read?_broken hleft hops hbody (.inr ⟨rfl, by simp⟩))⟩
    refine evaluateText_unknown (fun op hop => ?_) (read?_short hleft hops hundivided hne)
    by_cases hmark : c = '!'
    · exact hundivided op [] (by rw [hop, hmark])
    · exact hnone op _ (.shortened (by rw [hop]) hmark rfl)
  · have hunknown : ∀ op : Comparison, ops ≠ op.toText.toList := by
      rcases hbroken with ⟨hnil, _⟩ | hunknown
      · exact absurd (by rw [hnil]; rfl) hempty
      · intro op hop
        exact hunknown op 0 (by simpa using hop)
    exact evaluateText_unknown hunknown
      (htrim.trans (read?_whole hleft hops hbody hundivided hunknown hempty hline))

/-- Without a right operand `===` is taken for `==` and the text `=`. -/
theorem evaluateText_operatorRun_shortened :
    Misread "===".toList [] .equal (.str "=") ∧ evaluateText "1 ===" [] =
      operand "1" [] >>= fun u => Comparison.equal.holds u (.str "=") := by
  have hmisread : Misread "===".toList [] .equal (.str "=") :=
    .shortened (c := '=') (by decide) (by decide) rfl
  have hleft : BareOperand "1".toList := ⟨by simp, by simp [isBlank, operatorChars], by simp⟩
  have hops : OperatorRun "===".toList := ⟨by simp, by simp [operatorChars]⟩
  have hbroken := (evaluateText_operatorRun hleft hops (by simp) (.inl ⟨rfl, by decide⟩) []).1
  exact ⟨hmisread, hbroken .equal _ hmisread⟩

/-- So neither of these is refused. -/
theorem evaluateText_misread_runs :
    evaluateText "1 ===" [] = .ok false ∧ evaluateText "1 ==!=" [] = .ok false :=
  ⟨rfl, rfl⟩

end

end

end Stencil.Condition
