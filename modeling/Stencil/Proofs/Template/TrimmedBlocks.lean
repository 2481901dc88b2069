import Stencil.Proofs.Template.Nesting
import Stencil.Proofs.Template.Trimmed
import Stencil.Proofs.Template.Walk

/-!
# Trimming changes blanks only

With the standard syntax, a text whose blocks are resolved with trimming and
the same text resolved without it differ in blanks at most: either both
resolve or both are refused, with the same refusal, and deleting every blank
from what is left makes the two the same. `process_trimmed` says so, and for
the notes of the run as well.

What carries it is that trimming finds the same tags, each widened by blanks
(`scan_widened`). Building the tree asks a tag for its sort and its condition
only, so the two trees are refused alike, though the texts in them differ;
that is shown of the open blocks and not of the trees. Behind that the two
runs are compared as walks over the tags. They are kept in step by the gap
between them, the blanks behind the last tag that one of the two is past and
the other is not.
-/

namespace Stencil.Node

open Stencil.BlockTag (slice slice_append slice_append_drop Spans Widened)
open Stencil.Text (isBlank)

/-! ## The same refusals -/

theorem opened_length (b : Building) : b.opened.length = b.stack.length := List.length_map _

theorem opened_isEmpty (b : Building) : b.opened.isEmpty = b.stack.isEmpty := List.isEmpty_map

/-- What a tag does to the open blocks depends on what the tag is, and not on
where it stands. -/
theorem apply_opened (maxDepth : Int) {tag tag' : BlockTag} {b b' : Building}
    (htag : tag'.content = tag.content) (hopened : b'.opened = b.opened) :
    (b'.apply maxDepth tag').map Building.opened = (b.apply maxDepth tag).map Building.opened := by
  obtain ⟨hkind, hcondition⟩ := Prod.mk.inj htag
  have hlength : b'.stack.length = b.stack.length := by
    rw [← opened_length, ← opened_length, hopened]
  unfold Building.apply
  rw [hkind]
  cases tag.kind with
  | opening =>
      dsimp only
      rw [hcondition, hlength]
      split
      · rfl
      · cases Condition.parse (tag.condition.getD "") with
        | error f => rfl
        | ok c =>
            show Except.ok (false :: b'.opened) = Except.ok (false :: b.opened)
            rw [hopened]
  | otherwise =>
      cases hstack : b.stack <;> cases hstack' : b'.stack <;>
        simp only [Building.opened, hstack, hstack', List.map_nil, List.map_cons, reduceCtorEq,
          List.cons.injEq] at hopened
      · rfl
      · obtain ⟨helse, houter⟩ := hopened
        dsimp only
        rw [helse]
        split
        · rfl
        · exact congrArg (fun outer => Except.ok (true :: outer)) houter
  | closing =>
      cases hstack : b.stack <;> cases hstack' : b'.stack <;>
        simp only [Building.opened, hstack, hstack', List.map_nil, List.map_cons, reduceCtorEq,
          List.cons.injEq] at hopened
      · rfl
      · show Except.ok _ = Except.ok _
        rw [opened_push, opened_push]
        exact congrArg Except.ok hopened.2

/-- The tags are refused with trimming as they are without it. -/
theorem build_widened (maxDepth : Int) {cs : List Char} {plain wide : List BlockTag}
    (h : List.Forall₂ (Widened cs) plain wide) : ∀ {pos pos' : Nat} {rest rest' : List Char}
    {b b' : Building}, b'.opened = b.opened →
    (build maxDepth pos' rest' wide b').map (fun _ => ()) =
      (build maxDepth pos rest plain b).map fun _ => () := by
  induction h with
  | nil =>
      intro pos pos' rest rest' b b' hopened
      have hempty : b'.stack.isEmpty = b.stack.isEmpty := by
        rw [← opened_isEmpty, ← opened_isEmpty, hopened]
      rw [build, build, hempty]
      split <;> rfl
  | @cons tag tag' plain wide hwidened _ ih =>
      intro pos pos' rest rest' b b' hopened
      have hpushed : (b'.pushText (rest'.take (tag'.start - pos'))).opened =
          (b.pushText (rest.take (tag.start - pos))).opened := by
        rw [opened_pushText, opened_pushText, hopened]
      have happly := apply_opened maxDepth hwidened.content hpushed
      rw [build, build]
      cases hnext : (b.pushText (rest.take (tag.start - pos))).apply maxDepth tag with
      | error f =>
          rw [hnext] at happly
          rw [map_eq_error.1 happly]
          rfl
      | ok next =>
          rw [hnext] at happly
          obtain ⟨next', hnext', hsame⟩ := map_eq_ok.1 happly
          rw [hnext', ok_bind, ok_bind]
          exact ih hsame

/-! ## The same text but for blanks -/

/-- A text with every blank deleted. -/
def unblanked (cs : List Char) : List Char := cs.filter fun c => !isBlank c

theorem unblanked_append (front back : List Char) :
    unblanked (front ++ back) = unblanked front ++ unblanked back := List.filter_append ..

theorem unblanked_blank {cs : List Char} (h : ∀ c ∈ cs, isBlank c = true) : unblanked cs = [] := by
  refine List.filter_eq_nil_iff.2 fun c hc => ?_
  rw [h c hc]
  decide

theorem unblanked_kept {branches : List Bool} {cs cs' : List Char}
    (h : unblanked cs' = unblanked cs) :
    unblanked (kept branches cs') = unblanked (kept branches cs) := by
  unfold kept
  split
  · exact h
  · rfl

theorem turn_content {tag tag' : BlockTag} (htag : tag'.content = tag.content) (args : Arguments)
    (branches : List Bool) : turn args tag' branches = turn args tag branches := by
  obtain ⟨hkind, hcondition⟩ := Prod.mk.inj htag
  unfold turn
  rw [hkind, hcondition]

/-- The walk over the widened tags keeps what the walk over the plain ones
keeps, but for blanks, where it is ahead of that by blanks. -/
theorem walk_widened (args : Arguments) {cs : List Char} {plain wide : List BlockTag}
    (h : List.Forall₂ (Widened cs) plain wide) : ∀ {pos pos' : Nat}, pos ≤ pos' →
    (∀ c ∈ slice cs pos pos', isBlank c = true) → Spans cs.length pos' wide →
    ∀ branches, unblanked <$> walk args cs pos' wide branches =
      unblanked <$> walk args cs pos plain branches := by
  induction h with
  | nil =>
      intro pos pos' hle hgap _ branches
      have hdrop : unblanked (cs.drop pos') = unblanked (cs.drop pos) := by
        rw [← slice_append_drop cs hle, unblanked_append, unblanked_blank hgap, List.nil_append]
      rw [walk, walk, map_pure, map_pure, unblanked_kept hdrop]
  | @cons tag tag' plain wide hwidened _ ih =>
      intro pos pos' hle hgap hspans branches
      obtain ⟨hstart, _, hspans⟩ := hspans
      -- One of the two is past the gap, and the other goes on through the indentation.
      have hslice : unblanked (slice cs pos' tag'.start) = unblanked (slice cs pos tag.start) := by
        have hfront := hwidened.start_le
        rw [← slice_append cs (Nat.le_trans hle hstart) hfront, ← slice_append cs hle hstart,
          unblanked_append, unblanked_append, unblanked_blank hgap,
          unblanked_blank hwidened.front_blank, List.nil_append, List.append_nil]
      rw [walk, walk, turn_content hwidened.content]
      simp only [map_bind, map_pure, unblanked_append, unblanked_kept hslice]
      refine Run.bind_congr fun next _ => ?_
      have hrest := ih hwidened.le_stop hwidened.back_blank hspans next
      have happend := congrArg
        (fun r => (unblanked (kept branches (slice cs pos tag.start)) ++ ·) <$> r) hrest
      simpa only [map_eq_pure_bind, bind_assoc, pure_bind] using happend

/-- With the standard syntax a text has the same tags with any trimming as it
has without, in the same order, each widened by an indentation in front and
by an indentation and a line end behind, and still in order, without overlap
and inside the text. Resolving its blocks notes the same and fails with the
same reason, and where it does not fail it leaves the same text but for
blanks. -/
theorem process_trimmed (trim : Trimming) (maxDepth : Int) (cs : List Char) :
    ∃ plain wide, BlockTag.scan .standard .none cs = .ok plain ∧
      BlockTag.scan .standard trim cs = .ok wide ∧
      List.Forall₂ (Widened cs) plain wide ∧ Spans cs.length 0 wide ∧
      ∀ args, (process ⟨.standard, trim, maxDepth⟩ cs args).events =
          (process ⟨.standard, .none, maxDepth⟩ cs args).events ∧
        (process ⟨.standard, trim, maxDepth⟩ cs args).result.map unblanked =
          (process ⟨.standard, .none, maxDepth⟩ cs args).result.map unblanked := by
  obtain ⟨wide, hwide⟩ : ∃ wide, BlockTag.scan .standard trim cs = .ok wide := by
    rw [BlockTag.scan, BlockTag.found_standard]
    exact ⟨_, rfl⟩
  obtain ⟨plain, hplain, hwidened⟩ := BlockTag.scan_widened trim cs hwide
  have hspans := BlockTag.scan_spans hwide
  refine ⟨plain, wide, hplain, hwide, hwidened, hspans, fun args => ?_⟩
  have hbuild : (build maxDepth 0 cs wide ⟨[], []⟩).map (fun _ => ()) =
      (build maxDepth 0 cs plain ⟨[], []⟩).map fun _ => () :=
    build_widened maxDepth hwidened rfl
  suffices hsame : unblanked <$> process ⟨.standard, trim, maxDepth⟩ cs args =
      unblanked <$> process ⟨.standard, .none, maxDepth⟩ cs args by
    rw [← Run.map_events unblanked, ← Run.map_result, hsame, Run.map_events, Run.map_result]
    exact ⟨rfl, rfl⟩
  cases hout : build maxDepth 0 cs plain ⟨[], []⟩ with
  | error f =>
      rw [hout] at hbuild
      have hparse : parse ⟨.standard, .none, maxDepth⟩ cs = .error f := by
        rw [parse, hplain, ok_bind, hout]
      have hparse' : parse ⟨.standard, trim, maxDepth⟩ cs = .error f := by
        rw [parse, hwide, ok_bind, map_eq_error.1 hbuild]
      rw [process, process, hparse, hparse']
  | ok nodes =>
      rw [hout] at hbuild
      obtain ⟨nodes', hout', _⟩ := map_eq_ok.1 hbuild
      have hplainRun := process_of_build (s := ⟨.standard, .none, maxDepth⟩) args hplain hout
      have hwideRun := process_of_build (s := ⟨.standard, trim, maxDepth⟩) args hwide hout'
      rw [hplainRun, hwideRun]
      exact walk_widened args hwidened (Nat.le_refl 0) (by simp) hspans []

end Stencil.Node
