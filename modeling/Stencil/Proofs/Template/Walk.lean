import Stencil.Proofs.Template.OnePass
import Stencil.Template.Block

/-!
# Resolving blocks in one pass

The tree of blocks need not be built to know what it resolves to. A single
walk over the tags, with one boolean for each open block, keeps the text
between two tags if every boolean is true, evaluates the condition of an
opening tag under the same proviso, turns the innermost boolean over at an
`else` and forgets it at an `endif`. `process_eq_walk` says that this is what
resolving the tree gives, notes included: the same conditions are evaluated
in the same order, and the first failure is the same.

The proof runs along the tags, while the tree grows and blocks are still
open. What is built so far is therefore read as a run that is not finished:
`Building.resume` resolves the pieces that are there, enters the open blocks
from the outside in, and hands the stack of booleans it arrives with to
whatever comes next. Each thing a tag can do to the tree is then one equation
about `resume`, and nothing needs to be reordered, since the pieces that are
there stand in front of everything that is still to come.
-/

namespace Stencil.Node

open Stencil.BlockTag (slice Spans)

/-! ## The walk -/

/-- Whether each of the enclosing branches is the one that is taken. -/
def selected (branches : List Bool) : Bool := branches.all id

/-- What is kept of a text inside the given branches. -/
def kept (branches : List Bool) (cs : List Char) : List Char :=
  if selected branches then cs else []

/-- What a tag does to the branches, innermost first. A condition is looked at
only if the branches around it are taken. -/
def turn (args : Arguments) (tag : BlockTag) (branches : List Bool) : Run (List Bool) :=
  match tag.kind with
  | .opening =>
      if selected branches then do
        let c ← Run.ofExcept (Condition.parse (tag.condition.getD ""))
        let result ← c.evaluate args
        pure (result :: branches)
      else pure (false :: branches)
  | .otherwise =>
      match branches with
      | taken :: outer => pure ((!taken) :: outer)
      | [] => pure []
  | .closing => pure branches.tail

/-- What is kept of the text from `pos` on, with the given tags in it. -/
def walk (args : Arguments) (cs : List Char) : (pos : Nat) → List BlockTag → List Bool →
    Run (List Char)
  | pos, [], branches => pure (kept branches (cs.drop pos))
  | pos, tag :: tags, branches => do
      let next ← turn args tag branches
      let rest ← walk args cs tag.stop tags next
      pure (kept branches (slice cs pos tag.start) ++ rest)

@[simp] theorem selected_nil : selected [] = true := rfl

@[simp] theorem selected_cons (taken : Bool) (branches : List Bool) :
    selected (taken :: branches) = (taken && selected branches) := rfl

theorem evaluate_result (c : Condition) (args : Arguments) :
    (c.evaluate args).result = c.holds args := by
  rw [Condition.evaluate]
  simp only [Run.bind_result, Run.ofExcept_result, Run.note_result, ok_bind, Run.pure_result]
  cases c.holds args <;> rfl

/-! ## Resuming what is built so far -/

section

variable {args : Arguments}

/-- A run whose text stands behind what the given pieces resolve to. -/
def behind (args : Arguments) (nodes : List Node) (k : Run (List Char)) : Run (List Char) := do
  let cs ← resolveAll args nodes
  let rest ← k
  pure (cs ++ rest)

/-- Goes into an open block up to the end of the branch that is being filled. -/
def Opened.enter (args : Arguments) (o : Opened) (k : List Bool → Run (List Char))
    (branches : List Bool) : Run (List Char) :=
  if selected branches then do
    let result ← o.condition.evaluate args
    match o.elsePart, result with
    | none, true => behind args o.thenPart.reverse (k (true :: branches))
    | none, false => k (false :: branches)
    | some _, true => behind args o.thenPart.reverse (k (false :: branches))
    | some nodes, false => behind args nodes.reverse (k (true :: branches))
  else k (o.elsePart.isSome :: branches)

/-- Goes into all open blocks, the outermost first. -/
def enterAll (args : Arguments) : List Opened → (List Bool → Run (List Char)) → Run (List Char)
  | [], k => k []
  | o :: outer, k => enterAll args outer (o.enter args k)

/-- Resolves what is built so far and goes on with `k` in the branch that is
being filled. -/
def Building.resume (args : Arguments) (b : Building) (k : List Bool → Run (List Char)) :
    Run (List Char) :=
  behind args b.root.reverse (enterAll args b.stack k)

@[simp] theorem behind_nil (k : Run (List Char)) : behind args [] k = k := by
  simp [behind, resolveAll]

theorem behind_append : ∀ (front back : List Node) (k : Run (List Char)),
    behind args (front ++ back) k = behind args front (behind args back k)
  | [], back, k => by rw [behind_nil, List.nil_append]
  | n :: front, back, k => by
      have ih := behind_append front back k
      simp only [behind, List.cons_append, resolveAll, bind_assoc, pure_bind] at ih ⊢
      simp only [List.append_assoc]
      congr 1
      funext cs
      have hmap := congrArg (fun r => r >>= fun rest => pure (cs ++ rest)) ih
      simpa only [bind_assoc, pure_bind] using hmap

/-- One more piece in the branch that is being filled, if that is taken. -/
def withPiece (args : Arguments) (n : Node) (k : List Bool → Run (List Char))
    (branches : List Bool) : Run (List Char) :=
  if selected branches then behind args [n] (k branches) else k branches

theorem enter_push (o : Opened) (n : Node) (k : List Bool → Run (List Char)) :
    (o.push n).enter args k = o.enter args (withPiece args n k) := by
  funext branches
  cases hsel : selected branches with
  | false =>
      cases helse : o.elsePart <;>
        simp [Opened.enter, Opened.push, withPiece, hsel, helse]
  | true =>
      unfold Opened.enter Opened.push
      simp only [hsel, if_true]
      cases helse : o.elsePart with
      | none =>
          congr 1
          funext result
          cases result <;> simp [withPiece, hsel, behind_append]
      | some nodes =>
          congr 1
          funext result
          cases result <;> simp [withPiece, hsel, behind_append]

theorem resume_push (b : Building) (n : Node) (k : List Bool → Run (List Char)) :
    (b.push n).resume args k = b.resume args (withPiece args n k) := by
  cases hstack : b.stack with
  | nil =>
      simp only [Building.resume, Building.push, hstack, enterAll, List.reverse_cons,
        behind_append, withPiece, selected_nil, if_true]
  | cons o outer =>
      simp only [Building.resume, Building.push, hstack, enterAll, enter_push]

theorem resume_pushText (args : Arguments) (b : Building) (cs : List Char) (k : List Bool → Run (List Char)) :
    (b.pushText cs).resume args k = b.resume args fun branches =>
      k branches >>= fun rest => pure (kept branches cs ++ rest) := by
  unfold Building.pushText
  cases cs with
  | nil => simp [kept]
  | cons c cs =>
      rw [if_neg (by simp), resume_push]
      congr 1
      funext branches
      cases hsel : selected branches <;>
        simp [withPiece, kept, hsel, behind, resolveAll, resolve]

/-! ## What a tag does -/

theorem resume_open (b : Building) (c : Condition) (k : List Bool → Run (List Char)) :
    Building.resume args { b with stack := ⟨c, [], none⟩ :: b.stack } k =
      b.resume args fun branches =>
        if selected branches then c.evaluate args >>= fun result => k (result :: branches)
        else k (false :: branches) := by
  unfold Building.resume
  simp only [enterAll]
  congr 2
  funext branches
  unfold Opened.enter
  cases hsel : selected branches with
  | false => rfl
  | true =>
      simp only [if_true]
      congr 1
      funext result
      cases result with
      | false => rfl
      | true => rw [List.reverse_nil, behind_nil]

theorem resume_turn {b : Building} {o : Opened} {outer : List Opened} (hstack : b.stack = o :: outer)
    (helse : o.elsePart = none) (k : List Bool → Run (List Char)) :
    Building.resume args { b with stack := { o with elsePart := some [] } :: outer } k =
      b.resume args fun branches =>
        match branches with
        | taken :: outer => k ((!taken) :: outer)
        | [] => k [] := by
  unfold Building.resume
  simp only [enterAll, hstack]
  congr 2
  funext branches
  unfold Opened.enter
  cases hsel : selected branches with
  | false => simp [helse]
  | true =>
      simp only [if_true, helse]
      congr 1
      funext result
      cases result with
      | true => rfl
      | false => simp

/-- A finished block as a piece is the open block with its branch forgotten. -/
theorem withPiece_close (o : Opened) (k : List Bool → Run (List Char)) :
    withPiece args o.close k = o.enter args fun branches => k branches.tail := by
  funext branches
  unfold withPiece Opened.enter
  cases hsel : selected branches with
  | false => rfl
  | true =>
      simp only [if_true, Opened.close, behind, resolveAll, resolve, bind_assoc, pure_bind,
        List.append_nil, List.tail_cons]
      congr 1
      funext result
      cases result <;> cases o.elsePart <;> simp [resolveOther]

theorem resume_close {b : Building} {o : Opened} {outer : List Opened}
    (hstack : b.stack = o :: outer) (k : List Bool → Run (List Char)) :
    (({ b with stack := outer } : Building).push o.close).resume args k =
      b.resume args fun branches => k branches.tail := by
  rw [resume_push, withPiece_close]
  simp only [Building.resume, hstack, enterAll]

/-- What a tag does to the tree is what it does to the stack of booleans. -/
theorem resume_apply {maxDepth : Int} {tag : BlockTag} {b next : Building}
    (h : b.apply maxDepth tag = .ok next) (k : List Bool → Run (List Char)) :
    next.resume args k = b.resume args fun branches => turn args tag branches >>= k := by
  unfold Building.apply at h
  cases hkind : tag.kind with
  | opening =>
      simp only [hkind] at h
      split at h
      · cases h
      · obtain ⟨c, hc, h⟩ := bind_eq_ok.1 h
        cases h
        rw [resume_open]
        congr 1
        funext branches
        unfold turn
        simp only [hkind, hc, Run.ofExcept_ok, pure_bind]
        split <;> simp only [bind_assoc, pure_bind]
  | otherwise =>
      simp only [hkind] at h
      split at h
      · cases h
      · next o outer hstack =>
          split at h
          · cases h
          · next helse =>
              cases h
              rw [resume_turn hstack (by simpa using helse)]
              congr 1
              funext branches
              unfold turn
              simp only [hkind]
              cases branches <;> simp only [pure_bind]
  | closing =>
      simp only [hkind] at h
      split at h
      · cases h
      · next o outer hstack =>
          cases h
          rw [resume_close hstack]
          congr 1
          funext branches
          unfold turn
          simp only [hkind, pure_bind]

/-! ## The whole run -/

/-- The tree that is finished from a place on resolves to what is there, and
then to what the walk keeps of the text from that place on. -/
theorem resolveAll_build (args : Arguments) {maxDepth : Int} {cs : List Char} {nodes : List Node} :
    ∀ {tags : List BlockTag} {pos : Nat} {b : Building}, Spans cs.length pos tags →
      build maxDepth pos (cs.drop pos) tags b = .ok nodes →
      resolveAll args nodes = b.resume args (walk args cs pos tags) := by
  intro tags
  induction tags with
  | nil =>
      intro pos b _ h
      rw [build] at h
      split at h
      · next hstack =>
          cases h
          have hlast := resume_pushText args b (cs.drop pos) fun _ => pure []
          have hempty : (b.pushText (cs.drop pos)).stack = [] := by
            have hnil : b.stack = [] := by simpa using hstack
            unfold Building.pushText Building.push
            split
            · exact hnil
            · simp only [hnil]
          simp only [pure_bind, List.append_nil] at hlast
          show _ = b.resume args fun branches => pure (kept branches (cs.drop pos))
          rw [← hlast, Building.resume, hempty, enterAll, behind]
          simp
      · cases h
  | cons tag tags ih =>
      intro pos b hspans h
      obtain ⟨hstart, hstop, hrest⟩ := hspans
      rw [build] at h
      obtain ⟨next, hnext, h⟩ := bind_eq_ok.1 h
      rw [List.drop_drop, show pos + (tag.stop - pos) = tag.stop by omega] at h
      rw [ih hrest h, resume_apply hnext, resume_pushText]
      congr 1
      funext branches
      unfold walk
      simp only [bind_assoc]
      rfl

/-- Resolving a text is the walk over its tags, once these have a tree. -/
theorem process_of_build {s : Settings} {cs : List Char} {tags : List BlockTag}
    {nodes : List Node} (args : Arguments) (htags : BlockTag.scan s.patterns s.trimming cs = .ok tags)
    (hbuild : build s.maxDepth 0 cs tags ⟨[], []⟩ = .ok nodes) :
    process s cs args = walk args cs 0 tags [] := by
  have hparse : parse s cs = .ok nodes := by rw [parse, htags, ok_bind, hbuild]
  have hresolve := resolveAll_build args (b := ⟨[], []⟩) (BlockTag.scan_spans htags) hbuild
  rw [process, hparse, Run.ofExcept_ok, pure_bind, hresolve]
  simp [Building.resume, enterAll]

/-- Where the blocks of a text have a tree, resolving it is the walk over the
tags: the slices of the text between the tags, in order and each at most
once, are kept where every enclosing branch is taken, and the conditions that
are evaluated are those of the opening tags there. -/
theorem process_eq_walk {s : Settings} {cs : List Char} {nodes : List Node} (args : Arguments)
    (h : parse s cs = .ok nodes) :
    ∃ tags, BlockTag.scan s.patterns s.trimming cs = .ok tags ∧ Spans cs.length 0 tags ∧
      process s cs args = walk args cs 0 tags [] := by
  obtain ⟨tags, htags, hbuild⟩ := bind_eq_ok.1 h
  exact ⟨tags, htags, BlockTag.scan_spans htags, process_of_build args htags hbuild⟩

/-- Blocks in both branches of a block. -/
def nestedText : List Char :=
  "a<%if $x%>b<%if $y%>c<%endif%>\nd<%else%><%if $z%>e<%endif%><%endif%>f".toList

theorem process_eq_walk_nested :
    (∃ nodes, parse ⟨.standard, .none, 2⟩ nestedText = .ok nodes) ∧
      ∃ tags, BlockTag.scan .standard .none nestedText = .ok tags ∧
        Spans nestedText.length 0 tags ∧
        process ⟨.standard, .none, 2⟩ nestedText [("x", .bool true)] =
          walk [("x", .bool true)] nestedText 0 tags [] := by
  have hparse : ∃ nodes, parse ⟨.standard, .none, 2⟩ nestedText = .ok nodes := by
    rw [parse, BlockTag.scan_eq_onePass]
    exact ⟨_, rfl⟩
  obtain ⟨nodes, h⟩ := hparse
  exact ⟨⟨nodes, h⟩, process_eq_walk [("x", .bool true)] h⟩

end

end Stencil.Node
