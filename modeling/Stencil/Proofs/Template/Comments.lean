import Stencil.Proofs.Regex.Sweep
import Stencil.Proofs.Text.Cut
import Stencil.Template.Settings

/-!
# What is removed as a comment

A comment reaches from its opener to the first closer behind it, and nothing
inside of it matters. The expression for comments says this in a roundabout
way: a blank behind the opener and one in front of the closer are taken by
gaps, and only what is left is the text of the comment. But neither gap can
move the end. A closer begins with no blank, so the gap in front of it takes
the blank that is there; and a blank behind the opener may be taken by the
first gap or left to the text, but is no part of a closer either way.
-/

namespace Stencil.TagPattern

open Stencil.Regex Stencil.Text

/-! ## Where a comment ends -/

/-- The length of a closer with a gap in front, if the text begins with one. -/
def closerEnd? (cs : List Char) : Option Nat :=
  (afterPhrase? ['#', '>'] (cs.drop (gapLength cs))).map fun _ => gapLength cs + 2

/-- The length of a comment behind its opener: what is in front of the first
gap and closer, and these themselves. -/
def closing? : List Char → Option (Nat × Nat)
  | [] => none
  | c :: cs => ((closerEnd? (c :: cs)).map fun n => (0, n)).or
      ((closing? cs).map fun e => (e.1 + 1, e.2))

theorem cut?_blank {c : Char} (hc : isBlank c = true) (cs : List Char) :
    cut? ['#', '>'] (c :: cs) = (cut? ['#', '>'] cs).map fun parts => (c :: parts.1, parts.2) :=
  cut?_later (afterPhrase?_blank (by decide) hc)

/-- Wherever the gap begins, a comment ends behind the first closer. -/
theorem closing?_length (cs : List Char) : (closing? cs).map (fun e => e.1 + e.2) =
    (cut? ['#', '>'] cs).map fun parts => parts.1.length + 2 := by
  induction cs with
  | nil => rfl
  | cons c cs ih =>
      have hnext : ((closing? cs).map fun e => (e.1 + 1, e.2)).map (fun e => e.1 + e.2) =
          ((cut? ['#', '>'] cs).map fun parts => (c :: parts.1, parts.2)).map
            fun parts => parts.1.length + 2 := by
        have hih := congrArg (Option.map (· + 1)) ih
        simpa [Option.map_map, Function.comp_def, Nat.add_right_comm] using hih
      rw [closing?, closerEnd?]
      cases hc : isBlank c with
      | true =>
          have hgap : gapLength (c :: cs) = 1 := if_pos hc
          rw [cut?_blank hc, hgap, List.drop_one, List.tail_cons]
          cases hcloser : afterPhrase? ['#', '>'] cs with
          | none => exact hnext
          | some rest =>
              cases cs with
              | nil => cases hcloser
              | cons d cs =>
                  rw [cut?_here hcloser]
                  rfl
      | false =>
          have hgap : gapLength (c :: cs) = 0 := if_neg (by rw [hc]; decide)
          rw [hgap, List.drop_zero]
          cases hcloser : afterPhrase? ['#', '>'] (c :: cs) with
          | none =>
              rw [cut?_later hcloser]
              exact hnext
          | some rest =>
              rw [cut?_here hcloser]
              rfl

/-! ## Matching a comment -/

section

variable {p : Place}

/-- What ends a comment. -/
def closer : List Regex := gap :: phrase ['#', '>']

theorem run_closer : run (.all closer) p some = (closerEnd? p.rest).map p.skip := by
  rw [closer, run_all_cons, run_gap_phrase (by decide), closerEnd?]
  cases afterPhrase? ['#', '>'] (p.rest.drop (gapLength p.rest)) <;> rfl

/-- A text and what ends the comment behind it, for whatever is done with the
two lengths. -/
theorem run_closing {k : Continue} {α : Place → Nat → Place}
    (hk : ∀ q, k q = (closerEnd? q.rest).map (α q)) (p : Place) :
    run (.manyLazy (.one .every)) p k = (closing? p.rest).map fun e => α (p.skip e.1) e.2 := by
  induction p using Place.along with
  | nil p hrest =>
      rw [run_manyLazy, Place.step?_nil _ hrest, hk, hrest]
      rfl
  | cons p c cs hrest ih =>
      rw [Place.skip_rest, hrest, List.drop_succ_cons, List.drop_zero] at ih
      rw [run_manyLazy, Place.step?_cons _ hrest, hk, hrest, closing?]
      cases closerEnd? (c :: cs) with
      | some m => simp
      | none => simp [CharClass.holds, ih, Place.skip_skip, Function.comp_def, Nat.add_comm]

/-- The inside of a comment, the gap in front of its text apart. -/
def commentBody : List Regex := .group "comment" (.all [.manyLazy (.one .every)]) :: closer

theorem run_commentBody (p : Place) : run (.all commentBody) p some =
    (closing? p.rest).map fun e =>
      p.marked (e.1 + e.2) (("comment", p.rest.take e.1) :: p.groups) := by
  have hclose : ∀ q, run (.all closer) (p.keep "comment" q) some =
      (closerEnd? q.rest).map (p.keep "comment" q).skip := fun q => run_closer
  rw [commentBody, run_all_cons, run_group, run_all_cons]
  simp only [run_all_nil]
  rw [run_closing hclose]
  congr 1
  funext e
  rw [p.skip_eq_marked e.1, Place.keep_marked, Place.marked_skip]

/-- The inside of a comment ends behind the first closer, and where there is
none it does not match. Which text it keeps is left open. -/
theorem run_commentBody_cut (p : Place) : ∃ groups, run (.all commentBody) p some =
    (cut? ['#', '>'] p.rest).map fun parts => p.marked (parts.1.length + 2) groups := by
  have hlength := closing?_length p.rest
  rw [run_commentBody]
  cases hclosing : closing? p.rest with
  | none =>
      rw [hclosing, Option.map_none, eq_comm, Option.map_eq_none_iff] at hlength
      exact ⟨[], by rw [hlength]; rfl⟩
  | some e =>
      rw [hclosing, Option.map_some, eq_comm, Option.map_eq_some_iff] at hlength
      obtain ⟨parts, hcut, hlength⟩ := hlength
      exact ⟨_, by rw [hcut, Option.map_some, Option.map_some, hlength]⟩

/-- A blank behind the opener may be taken or left: the end is the same. -/
theorem run_comment (p : Place) : ∃ groups, run (.all (gap :: commentBody)) p some =
    (cut? ['#', '>'] p.rest).map fun parts => p.marked (parts.1.length + 2) groups := by
  obtain ⟨groups, hleft⟩ := run_commentBody_cut p
  obtain ⟨groups', htaken⟩ := run_commentBody_cut (p.skip 1)
  rw [run_all_cons, gap, run_optional]
  cases hrest : p.rest with
  | nil => exact ⟨groups, by rw [Regex.blank, run_one_nil _ hrest, Option.none_or, hleft, hrest]⟩
  | cons c cs =>
      rw [run_blank hrest, hleft, htaken, Place.skip_rest, hrest, List.drop_one, List.tail_cons]
      by_cases hc : isBlank c = true
      · rw [if_pos hc, cut?_blank hc]
        cases cut? ['#', '>'] cs with
        | none => exact ⟨[], rfl⟩
        | some parts =>
            refine ⟨groups', ?_⟩
            rw [p.skip_eq_marked 1]
            simp [Nat.add_left_comm]
      · exact ⟨groups, by rw [if_neg hc, Option.none_or]⟩

/-- The match of a comment: it begins with an opener and ends behind the first
closer after that. -/
theorem matchAt?_standardComment (p : Place) : ∃ groups, standardComment.regex.matchAt? true p =
    (afterPhrase? ['<', '#'] p.rest).bind fun inside =>
      (cut? ['#', '>'] inside).map fun parts => p.marked (parts.1.length + 4) groups := by
  obtain ⟨groups, hinside⟩ := run_comment (p.skip 2)
  have hsplit : standardComment.regex = .all (phrase ['<', '#'] ++ gap :: commentBody) := by
    simp [standardComment, commentBody, closer, phrase]
  refine ⟨groups, ?_⟩
  rw [matchAt?_true, hsplit, run_all_append, run_phrase]
  cases hopen : afterPhrase? ['<', '#'] p.rest with
  | none => rfl
  | some inside =>
      have hrest : (p.skip 2).rest = inside := by
        rw [Place.skip_rest, afterPhrase?_eq_some.1 hopen]
        rfl
      rw [Option.bind_some, Option.bind_some]
      show run (.all (gap :: commentBody)) (p.skip 2) some = _
      rw [hinside, hrest, p.skip_eq_marked 2]
      simp [Nat.add_left_comm]

theorem matchHere?_standardComment {inside body rest : List Char}
    (hrest : p.rest = '<' :: '#' :: inside) (hcut : cut? ['#', '>'] inside = some (body, rest)) :
    ∃ m, standardComment.regex.matchHere? p = some m ∧ m.start = p.pos ∧
      m.stop = p.pos + (body.length + 4) := by
  obtain ⟨groups, hmatch⟩ := matchAt?_standardComment p
  have hopen : afterPhrase? ['<', '#'] p.rest = some inside := afterPhrase?_eq_some.2 hrest
  rw [hopen, Option.bind_some, hcut, Option.map_some] at hmatch
  exact ⟨_, by rw [matchHere?, hmatch]; rfl, rfl, rfl⟩

/-- Where no opener stands, or no closer behind it, no comment begins. -/
theorem matchHere?_standardComment_none
    (h : ∀ inside, p.rest = '<' :: '#' :: inside → cut? ['#', '>'] inside = none) :
    standardComment.regex.matchHere? p = none := by
  obtain ⟨groups, hmatch⟩ := matchAt?_standardComment p
  have hnone : standardComment.regex.matchAt? true p = none := by
    rw [hmatch]
    cases hopen : afterPhrase? ['<', '#'] p.rest with
    | none => rfl
    | some inside => rw [Option.bind_some, h inside (afterPhrase?_eq_some.1 hopen), Option.map_none]
  rw [matchHere?, hnone, Option.map_none]

end

end Stencil.TagPattern

namespace Stencil

open Stencil.Regex Stencil.Text Stencil.TagPattern

/-! ## Removing comments -/

/-- A text without its comments: up to the first opener, and on behind the first closer that begins
behind that. An opener without a closer is text, and so is everything behind it. -/
def uncommented (cs : List Char) : List Char :=
  match _ : cut? ['<', '#'] cs with
  | none => cs
  | some (front, inside) =>
      match _ : cut? ['#', '>'] inside with
      | none => cs
      | some (_, rest) => front ++ uncommented rest
termination_by cs.length
decreasing_by
  rename_i hopen _ hclose
  rw [cut?_eq_append hopen, cut?_eq_append hclose]
  simp only [List.length_append, List.length_cons]
  omega

section

variable {cs front inside body rest : List Char}

theorem uncommented_plain (hopen : cut? ['<', '#'] cs = none) : uncommented cs = cs := by
  rw [uncommented]
  split
  · rfl
  · next heq => rw [hopen] at heq; cases heq

theorem uncommented_unclosed (hopen : cut? ['<', '#'] cs = some (front, inside))
    (hclose : cut? ['#', '>'] inside = none) : uncommented cs = cs := by
  rw [uncommented]
  split
  · rfl
  · next heq =>
      rw [hopen] at heq
      cases heq
      split
      · rfl
      · next heq => rw [hclose] at heq; cases heq

theorem uncommented_closed (hopen : cut? ['<', '#'] cs = some (front, inside))
    (hclose : cut? ['#', '>'] inside = some (body, rest)) :
    uncommented cs = front ++ uncommented rest := by
  rw [uncommented]
  split
  · next heq => rw [hopen] at heq; cases heq
  · next heq =>
      rw [hopen] at heq
      cases heq
      split
      · next heq => rw [hclose] at heq; cases heq
      · next heq =>
          rw [hclose] at heq
          cases heq
          rfl

end

section

variable {p : Place} {front inside body rest : List Char}

theorem matchHere?_unopened {n : Nat} (h : afterPhrase? ['<', '#'] (p.rest.drop n) = none) :
    standardComment.regex.matchHere? (p.skip n) = none := by
  refine matchHere?_standardComment_none fun inside hinside => ?_
  rw [← Place.skip_rest, afterPhrase?_eq_some.2 hinside] at h
  cases h

/-- Behind an opener without a closer there is no comment, as a later opener
would need a closer behind it as well. -/
theorem matchHere?_unclosed (hopen : cut? ['<', '#'] p.rest = some (front, inside))
    (hclose : cut? ['#', '>'] inside = none) (n : Nat) :
    standardComment.regex.matchHere? (p.skip n) = none := by
  by_cases hn : n < front.length
  · exact matchHere?_unopened (cut?_first hopen n hn)
  · obtain ⟨j, rfl⟩ : ∃ j, n = front.length + j := ⟨n - front.length, by omega⟩
    refine matchHere?_standardComment_none fun later hlater => ?_
    have hdrop : inside.drop j = later := by
      have hbehind : p.rest.drop (front.length + 2) = inside := by
        rw [← List.drop_drop, cut?_eq_append hopen, List.drop_left]
        rfl
      have htail : (p.rest.drop (front.length + j)).drop 2 = later := by
        rw [← Place.skip_rest, hlater]
        rfl
      rw [← hbehind, ← htail, List.drop_drop, List.drop_drop, Nat.add_right_comm]
    rw [← hdrop]
    exact cut?_drop_none hclose j

/-- The first comment of a sweep, and the sweep behind it. -/
theorem sweep_comment (hgroups : p.groups = [])
    (hopen : cut? ['<', '#'] p.rest = some (front, inside))
    (hclose : cut? ['#', '>'] inside = some (body, rest)) :
    ∃ m : Match, m.start = p.pos + front.length ∧
      m.stop = p.pos + (front.length + (body.length + 4)) ∧
      sweep Match.stop standardComment.regex.matchHere? p.pos p = m ::
        sweep Match.stop standardComment.regex.matchHere? m.stop
          (p.skip (front.length + (body.length + 4))) := by
  have hrest : p.rest = front ++ '<' :: '#' :: inside := cut?_eq_append hopen
  have hhere : (p.skip front.length).rest = '<' :: '#' :: inside := by
    rw [Place.skip_rest, hrest, List.drop_left]
  have hlength : body.length + 4 ≤ (p.skip front.length).rest.length := by
    rw [hhere, cut?_eq_append hclose]
    simp only [List.length_cons, List.length_append]
    omega
  have hfront : front.length ≤ p.rest.length := by
    rw [hrest, List.length_append]
    omega
  obtain ⟨m, hm, hstart, hstop⟩ := matchHere?_standardComment hhere hclose
  refine ⟨m, hstart, hstop.trans (Nat.add_assoc ..), ?_⟩
  rw [sweep_pass hgroups hfront fun j hj => matchHere?_unopened (cut?_first hopen j hj),
    sweep_take (p := p.skip front.length) hgroups (Nat.le_add_right ..) hm hstop (Nat.succ_pos _)
      hlength, Place.skip_skip]

/-- What lies outside of the matches of a sweep is the text without comments. -/
theorem outside_comments : ∀ {n : Nat} {p : Place}, p.rest.length < n → p.groups = [] →
    outside p.pos (sweep Match.stop standardComment.regex.matchHere? p.pos p) p.rest =
      uncommented p.rest := by
  intro n
  induction n with
  | zero => intro p hn; omega
  | succ n ih =>
      intro p hn hgroups
      cases hopen : cut? ['<', '#'] p.rest with
      | none =>
          rw [uncommented_plain hopen,
            sweep_eq_nil hgroups fun m => matchHere?_unopened (cut?_none hopen m), outside]
      | some parts =>
          obtain ⟨front, inside⟩ := parts
          cases hclose : cut? ['#', '>'] inside with
          | none =>
              rw [uncommented_unclosed hopen hclose,
                sweep_eq_nil hgroups (matchHere?_unclosed hopen hclose), outside]
          | some parts =>
              obtain ⟨body, rest⟩ := parts
              have hrest : p.rest = front ++ ('<' :: '#' :: (body ++ '#' :: '>' :: rest)) := by
                rw [cut?_eq_append hopen, cut?_eq_append hclose]
                rfl
              have hbehind : p.rest.drop (front.length + (body.length + 4)) = rest := by
                rw [hrest]
                simp [List.drop_append, List.drop_eq_nil_of_le]
              obtain ⟨m, hstart, hstop, hsweep⟩ := sweep_comment hgroups hopen hclose
              have hnext := ih (p := p.skip (front.length + (body.length + 4)))
                (by rw [Place.skip_rest, hbehind]; rw [hrest] at hn; simp at hn; omega) hgroups
              rw [Place.skip_rest, hbehind, Place.skip_pos, ← hstop] at hnext
              rw [uncommented_closed hopen hclose, hsweep, outside, hstart, hstop,
                Nat.add_sub_cancel_left, Nat.add_sub_cancel_left, hbehind, ← hstop, hnext, hrest,
                List.take_left]

end

/-- The first stage of rendering removes the comments. -/
theorem erase_eq_uncommented (cs : List Char) :
    standardComment.regex.erase cs = uncommented cs := by
  have hconsumes : standardComment.regex.Consumes := consumes_one _ _
  rw [Regex.erase, allMatches_eq_sweep hconsumes]
  exact outside_comments (p := Place.ofText cs) (Nat.lt_succ_self _) rfl

/-- An opener and a closer share no character. -/
example : standardComment.regex.erase "a<#>b<##>c<###>d<#".toList = "acd<#".toList := by
  decide +kernel

theorem uncommented_comment {front body rest : List Char} (hfront : ¬ ['<', '#'] <:+: front)
    (hbody : ¬ ['#', '>'] <:+: body) :
    uncommented (front ++ '<' :: '#' :: (body ++ '#' :: '>' :: rest)) =
      front ++ uncommented rest :=
  uncommented_closed (cut?_put (by decide) hfront) (cut?_put (by decide) hbody)

namespace Options

/-- With the standard comments the first stage is the plain splitter, so what
stands in a comment has no effect on what is rendered. -/
theorem stripComments_plain {o : Options} (h : o.patterns.comment = .standardComment) :
    (∀ cs, o.stripComments cs = uncommented cs) ∧
      ∀ front body rest : List Char, ¬ ['<', '#'] <:+: front → ¬ ['#', '>'] <:+: body →
        o.stripComments (front ++ '<' :: '#' :: (body ++ '#' :: '>' :: rest)) =
          front ++ o.stripComments rest ∧
        ∀ (other : List Char) (args : Arguments), ¬ ['#', '>'] <:+: other →
          o.render (.str (String.ofList (front ++ '<' :: '#' :: (body ++ '#' :: '>' :: rest)))) args =
            o.render (.str (String.ofList (front ++ '<' :: '#' :: (other ++ '#' :: '>' :: rest))))
              args := by
  have hstrip : ∀ cs, o.stripComments cs = uncommented cs := fun cs => by
    rw [stripComments, h, erase_eq_uncommented]
  refine ⟨hstrip, fun front body rest hfront hbody => ⟨?_, fun other args hother => ?_⟩⟩
  · rw [hstrip, hstrip, uncommented_comment hfront hbody]
  · simp only [render, renderText, renderChars, String.toList_ofList, hstrip,
      uncommented_comment hfront hbody, uncommented_comment hfront hother]

/-- A comment behind half an opener, which begins like a closer and ends like
one, with an opener and a tag inside. -/
theorem stripComments_plain_nested :
    let body := "> <#\n<% if $x %>#".toList
    let rest := "b <% y %>".toList
    standard.patterns.comment = .standardComment ∧ ¬ ['<', '#'] <:+: "a <".toList ∧
      ¬ ['#', '>'] <:+: body ∧ ¬ ['#', '>'] <:+: [] ∧
      standard.stripComments ("a <".toList ++ '<' :: '#' :: (body ++ '#' :: '>' :: rest)) =
        "a <".toList ++ standard.stripComments rest ∧
      standard.render (.str (String.ofList
          ("a <".toList ++ '<' :: '#' :: (body ++ '#' :: '>' :: rest)))) [("y", .int 1)] =
        standard.render (.str (String.ofList
          ("a <".toList ++ '<' :: '#' :: ([] ++ '#' :: '>' :: rest)))) [("y", .int 1)] := by
  intro body rest
  have hfront : ¬ ['<', '#'] <:+: "a <".toList := notInfix_of_cut?_none rfl
  have hbody : ¬ ['#', '>'] <:+: body := notInfix_of_cut?_none rfl
  have hnone : ¬ ['#', '>'] <:+: [] := notInfix_of_cut?_none rfl
  obtain ⟨hstrip, hrender⟩ :=
    (stripComments_plain (o := standard) rfl).2 _ _ rest hfront hbody
  exact ⟨rfl, hfront, hbody, hnone, hstrip, hrender _ _ hnone⟩

end Options

end Stencil
