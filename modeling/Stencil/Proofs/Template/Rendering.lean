import Stencil.Proofs.Template.Nesting
import Stencil.Proofs.Template.PrintedCondition
import Stencil.Proofs.Template.PrintedVariables
import Stencil.Proofs.Template.Walk
import Stencil.Proofs.Text.Trim
import Stencil.Proofs.Value.Written

/-!
# Rendering a printed template

Rendering the text that is printed from a clean tree gives the meaning of the
tree, and fails with the failure that the meaning is. The stages are taken in
turn: no comment is found, the tags that are found have a tree, the walk over
them keeps the leaves that the conditions leave, and what replaces the
variable tags in these is their values.

Two inductions carry the proof. One goes over the tree and says what the walk
does with the pieces of a tree in front of any others, inside a branch that
is taken or not. The other goes over the leaves and says what splicing does
with them behind any text.
-/

namespace Stencil.Printed

open Stencil.Text Stencil.Node

/-! ## Blocks are well nested -/

/-- The tags can be gone through without offence, from some open blocks to
others. -/
inductive Passes (limit : Int) : List Bool → List BlockTag → List Bool → Prop
  | nil {opened : List Bool} : Passes limit opened [] opened
  | cons {opened next last : List Bool} {tag : BlockTag} {tags : List BlockTag} :
      (∀ message, ¬ Offends limit opened tag message) → afterTag opened tag = some next →
      Passes limit next tags last → Passes limit opened (tag :: tags) last

theorem Passes.append {limit : Int} {opened next last : List Bool} {front back : List BlockTag}
    (h : Passes limit opened front next) (h' : Passes limit next back last) :
    Passes limit opened (front ++ back) last := by
  induction h with
  | nil => exact h'
  | cons hnot hafter _ ih => exact .cons hnot hafter (ih h')

/-- Tags that can be gone through have a tree. -/
theorem Passes.build {limit : Int} {tags : List BlockTag} : ∀ {pos : Nat} {rest : List Char}
    {b : Building}, Passes limit b.opened tags [] →
    ∃ nodes, Node.build limit pos rest tags b = .ok nodes := by
  induction tags with
  | nil =>
      intro pos rest b h
      have hstack : b.stack.isEmpty = true := by
        generalize hopened : b.opened = opened at h
        cases h
        have hmap : b.stack.map (fun o => o.elsePart.isSome) = [] := hopened
        rw [List.map_eq_nil_iff.1 hmap]
        rfl
      rw [Node.build, if_pos hstack]
      exact ⟨_, rfl⟩
  | cons tag tags ih =>
      intro pos rest b h
      rw [← opened_pushText b (rest.take (tag.start - pos))] at h
      rw [Node.build]
      cases happly : (b.pushText (rest.take (tag.start - pos))).apply limit tag with
      | error f =>
          obtain ⟨_, message, _, hoff⟩ := apply_offends happly
          cases h with
          | cons hnot _ _ => exact absurd hoff (hnot message)
      | ok next =>
          obtain ⟨hnext, _⟩ := apply_leaves happly
          cases h with
          | cons _ hafter hrest =>
              rw [hafter] at hnext
              cases hnext
              exact ih hrest

theorem blockTags_append (ps qs : List Piece) : ∀ pos, ∃ pos',
    blockTags pos (ps ++ qs) = blockTags pos ps ++ blockTags pos' qs := by
  induction ps with
  | nil => intro pos; exact ⟨pos, rfl⟩
  | cons piece ps ih =>
      intro pos
      cases piece with
      | leaf l => exact ih _
      | mark m e =>
          obtain ⟨pos', h⟩ := ih (pos + (m.print ++ e.print).length)
          exact ⟨pos', by rw [List.cons_append, blockTags, h, blockTags]; rfl⟩

theorem Question.parse_trim (q : Question) :
    ∃ c, Condition.parse (String.ofList q.chars) = .ok c ∧
      Condition.parse (String.ofList (trim q.chars)) = .ok c := by
  obtain ⟨c, hc⟩ := q.accepted
  refine ⟨c, hc, ?_⟩
  rw [Condition.parse, String.toList_ofList] at hc ⊢
  rw [Condition.read?_trim]
  split at hc
  · exact hc
  · cases hc

/-- An opening tag whose condition can be read, where there is room. -/
theorem Passes.opening {limit : Int} {opened last : List Bool} {q : Question} {start stop : Nat}
    {tags : List BlockTag} (hroom : opened.length < limit)
    (h : Passes limit (false :: opened) tags last) :
    Passes limit opened (⟨.opening, start, stop, (Mark.opening q).condition⟩ :: tags) last := by
  refine .cons (fun message hoff => ?_) (afterTag_opening rfl) h
  cases hoff with
  | tooDeep _ hdeep => omega
  | malformed _ _ hread =>
      obtain ⟨c, _, hc⟩ := q.parse_trim
      exact hread ⟨c, hc⟩
  | strayElse hkind | secondElse hkind | strayEndif hkind => cases hkind

theorem Passes.otherwise {limit : Int} {outer last : List Bool} {start stop : Nat}
    {tags : List BlockTag} (h : Passes limit (true :: outer) tags last) :
    Passes limit (false :: outer) (⟨.otherwise, start, stop, none⟩ :: tags) last := by
  refine .cons (fun message hoff => ?_) (afterTag_otherwise rfl) h
  cases hoff with
  | strayElse _ hopened | secondElse _ hopened => cases hopened
  | tooDeep hkind | malformed hkind | strayEndif hkind => cases hkind

theorem Passes.closing {limit : Int} {inner : Bool} {outer last : List Bool} {start stop : Nat}
    {tags : List BlockTag} (h : Passes limit outer tags last) :
    Passes limit (inner :: outer) (⟨.closing, start, stop, none⟩ :: tags) last := by
  refine .cons (fun message hoff => ?_) (afterTag_closing rfl) h
  cases hoff with
  | strayEndif _ hopened => cases hopened
  | tooDeep hkind | malformed hkind | strayElse hkind | secondElse hkind => cases hkind

theorem Body.Within.inside {limit : Int} {b : Body} {inner : Bool} {opened : List Bool}
    (h : b.Within (limit - opened.length - 1)) : b.Within (limit - (inner :: opened).length) := by
  rw [List.length_cons, Int.natCast_add, ← Int.sub_sub]
  exact h

/-- The tags of a tree that is not too deep can be gone through. -/
theorem passes_pieces {limit : Int} {b : Body} : ∀ {opened : List Bool} {pos : Nat},
    b.Within (limit - opened.length) → Passes limit opened (blockTags pos b.pieces) opened := by
  induction b with
  | done => intro opened pos _; exact .nil
  | leaf l rest ih => intro opened pos h; exact ih h
  | when q e body e' rest ihBody ihRest =>
      intro opened pos h
      obtain ⟨hroom, hbody, hrest⟩ := h
      obtain ⟨pos', htags⟩ := blockTags_append body.pieces (.mark .closing e' :: rest.pieces)
        (pos + ((Mark.opening q).print ++ e.print).length)
      rw [Body.pieces, blockTags, htags]
      exact .opening (by omega) ((ihBody hbody.inside).append (.closing (ihRest hrest)))
  | choose q e thenPart e' elsePart e'' rest ihThen ihElse ihRest =>
      intro opened pos h
      obtain ⟨hroom, hthen, helse, hrest⟩ := h
      obtain ⟨pos', htags⟩ := blockTags_append thenPart.pieces (.mark .otherwise e' ::
        (elsePart.pieces ++ .mark .closing e'' :: rest.pieces))
        (pos + ((Mark.opening q).print ++ e.print).length)
      obtain ⟨pos'', htags'⟩ := blockTags_append elsePart.pieces (.mark .closing e'' :: rest.pieces)
        (pos' + (Mark.otherwise.print ++ e'.print).length)
      rw [Body.pieces, blockTags, htags, blockTags, htags']
      exact .opening (by omega) ((ihThen hthen.inside).append
        (.otherwise ((ihElse helse.inside).append (.closing (ihRest hrest)))))

/-! ## The walk over the pieces -/

section

variable {args : Arguments}

def Mark.turn (args : Arguments) (m : Mark) (branches : List Bool) : Run (List Bool) :=
  Node.turn args ⟨m.kind, 0, 0, m.condition⟩ branches

/-- What is kept of the given pieces. -/
def keep (args : Arguments) : List Piece → List Bool → Run (List Char)
  | [], _ => pure []
  | .leaf l :: ps, branches => do
      let rest ← keep args ps branches
      pure (kept branches l.print ++ rest)
  | .mark m _ :: ps, branches => do
      let next ← m.turn args branches
      keep args ps next

theorem kept_nil (branches : List Bool) : kept branches [] = [] := by
  unfold kept
  split <;> rfl

theorem kept_append (branches : List Bool) (xs ys : List Char) :
    kept branches (xs ++ ys) = kept branches xs ++ kept branches ys := by
  unfold kept
  split <;> rfl

/-- Walking over the tags keeps what the pieces say. The text since the last
tag is `pending`; it is looked at only once the next tag is reached. -/
theorem walk_pieces (args : Arguments) : ∀ (ps : List Piece) (front pending : List Char)
    (branches : List Bool), walk args (front ++ pending ++ ps.flatMap Piece.print) front.length
      (blockTags (front.length + pending.length) ps) branches = (do
        let rest ← keep args ps branches
        pure (kept branches pending ++ rest)) := by
  intro ps
  induction ps with
  | nil =>
      intro front pending branches
      rw [blockTags, walk, keep, pure_bind, List.flatMap_nil, List.append_nil, List.append_nil,
        List.drop_left]
  | cons piece ps ih =>
      intro front pending branches
      rw [List.flatMap_cons]
      cases piece with
      | leaf l =>
          have htext : front ++ pending ++ (Piece.print (.leaf l) ++ ps.flatMap Piece.print) =
              front ++ (pending ++ l.print) ++ ps.flatMap Piece.print := by
            simp only [Piece.print, List.append_assoc]
          rw [htext, blockTags, Nat.add_assoc, ← List.length_append, ih, keep, kept_append]
          simp only [bind_assoc, pure_bind, List.append_assoc]
      | mark m e =>
          have hslice : BlockTag.slice (front ++ pending ++ (Piece.print (.mark m e) ++
              ps.flatMap Piece.print)) front.length (front.length + pending.length) = pending := by
            rw [BlockTag.slice, List.append_assoc, List.drop_left, Nat.add_sub_cancel_left,
              List.take_left]
          have hturn : Node.turn args ⟨m.kind, front.length + pending.length,
              front.length + pending.length + (m.print ++ e.print).length, m.condition⟩ branches =
              m.turn args branches := rfl
          have hrest : ∀ next, walk args (front ++ pending ++ (Piece.print (.mark m e) ++
              ps.flatMap Piece.print)) (front.length + pending.length + (m.print ++ e.print).length)
              (blockTags (front.length + pending.length + (m.print ++ e.print).length) ps) next =
              keep args ps next := by
            -- All text up to the mark is behind us, and nothing is pending.
            intro next
            have hnext := ih (front ++ pending ++ (m.print ++ e.print)) [] next
            simp only [List.append_nil, List.length_append, List.length_nil, Nat.add_zero,
              kept_nil, List.nil_append, bind_pure] at hnext
            rw [List.length_append, ← hnext, Piece.print]
            simp only [List.append_assoc]
          rw [blockTags, walk, keep]
          simp only [hturn, hrest, hslice, bind_assoc]

/-! ## What is kept of a tree -/

theorem turn_otherwise (taken : Bool) (branches : List Bool) :
    Mark.otherwise.turn args (taken :: branches) = pure ((!taken) :: branches) := rfl

theorem turn_closing (taken : Bool) (branches : List Bool) :
    Mark.closing.turn args (taken :: branches) = pure branches := rfl

/-- In a branch that is not taken the condition is not looked at. -/
theorem turn_opening_skipped {q : Question} {branches : List Bool} (h : selected branches = false) :
    (Mark.opening q).turn args branches = pure (false :: branches) := by
  have hturn : (Mark.opening q).turn args branches = if selected branches then _ else _ := rfl
  rw [hturn, h, if_neg Bool.false_ne_true]

theorem turn_opening {q : Question} {branches : List Bool} (h : selected branches = true) :
    ((Mark.opening q).turn args branches).result =
      (Condition.evaluateText (String.ofList q.chars) args).map (· :: branches) := by
  obtain ⟨c, hc, hc'⟩ := q.parse_trim
  have hturn : (Mark.opening q).turn args branches = if selected branches then _ else _ := rfl
  rw [hturn, h, if_pos rfl]
  simp only [Mark.condition, Option.getD_some, hc', Run.ofExcept_ok, pure_bind, Run.bind_result,
    evaluate_result, Run.pure_result, Condition.evaluateText, hc, ok_bind]
  cases c.holds args <;> rfl

/-- Nothing is kept of a tree inside a branch that is not taken. -/
theorem keep_skipped {b : Body} : ∀ {more : List Piece} {branches : List Bool},
    selected branches = false → keep args (b.pieces ++ more) branches = keep args more branches := by
  induction b with
  | done => intro more branches _; rfl
  | leaf l rest ih =>
      intro more branches h
      rw [Body.pieces, List.cons_append, keep, ih h, kept, h, if_neg Bool.false_ne_true]
      simp only [List.nil_append, bind_pure]
  | when q e body e' rest ihBody ihRest =>
      intro more branches h
      have hbody : ∀ more, keep args (body.pieces ++ more) (false :: branches) =
          keep args more (false :: branches) := fun _ => ihBody rfl
      rw [Body.pieces, List.cons_append, keep, turn_opening_skipped h, pure_bind, List.append_assoc,
        hbody, List.cons_append, keep, turn_closing, pure_bind, ihRest h]
  | choose q e thenPart e' elsePart e'' rest ihThen ihElse ihRest =>
      intro more branches h
      have hthen : ∀ more, keep args (thenPart.pieces ++ more) (false :: branches) =
          keep args more (false :: branches) := fun _ => ihThen rfl
      have helse : ∀ more, keep args (elsePart.pieces ++ more) (true :: branches) =
          keep args more (true :: branches) := fun _ => ihElse (by simpa using h)
      rw [Body.pieces, List.cons_append, keep, turn_opening_skipped h, pure_bind, List.append_assoc,
        hthen, List.cons_append, keep, turn_otherwise, pure_bind, Bool.not_false, List.append_assoc,
        helse, List.cons_append, keep, turn_closing, pure_bind, ihRest h]

/-- Inside a branch that is taken, what is kept of a tree is printed from the
leaves that the conditions leave, in front of what is kept of the rest. -/
theorem keep_pieces {b : Body} : ∀ {more : List Piece} {branches : List Bool},
    selected branches = true → (keep args (b.pieces ++ more) branches).result = (do
      let ls ← b.leaves args
      let rest ← (keep args more branches).result
      .ok (ls.flatMap Leaf.print ++ rest)) := by
  induction b with
  | done =>
      intro more branches _
      simp only [Body.pieces, Body.leaves, List.nil_append, ok_bind, List.flatMap_nil]
      cases (keep args more branches).result <;> rfl
  | leaf l rest ih =>
      intro more branches h
      rw [Body.pieces, List.cons_append, keep, kept, h, if_pos rfl, Run.bind_result, ih h,
        Body.leaves]
      simp only [bind_assoc, ok_bind, Run.pure_result, List.flatMap_cons, List.append_assoc]
  | when q e body e' rest ihBody ihRest =>
      intro more branches h
      have hclose : ∀ taken, (keep args (.mark .closing e' :: rest.pieces ++ more)
          (taken :: branches)).result = _ := fun _ => by
        rw [List.cons_append, keep, turn_closing, pure_bind, ihRest h]
      rw [Body.pieces, List.cons_append, keep, Run.bind_result, turn_opening h, Body.leaves,
        List.append_assoc]
      cases Condition.evaluateText (String.ofList q.chars) args with
      | error f => rfl
      | ok taken =>
          show (keep args (body.pieces ++ _) (taken :: branches)).result = _
          cases taken with
          | true =>
              rw [ihBody (by simpa using h), hclose]
              simp only [ok_bind, if_true, bind_assoc, List.flatMap_append, List.append_assoc]
          | false =>
              rw [keep_skipped rfl, hclose]
              simp only [ok_bind, Bool.false_eq_true, if_false, bind_assoc, List.nil_append]
  | choose q e thenPart e' elsePart e'' rest ihThen ihElse ihRest =>
      intro more branches h
      -- Behind either branch the boolean of the block is forgotten, whichever it was.
      have hclose : ∀ taken, (keep args (.mark .closing e'' :: rest.pieces ++ more)
          (taken :: branches)).result = _ := fun _ => by
        rw [List.cons_append, keep, turn_closing, pure_bind, ihRest h]
      have hother : ∀ taken, keep args (.mark .otherwise e' :: (elsePart.pieces ++
          .mark .closing e'' :: rest.pieces) ++ more) (taken :: branches) =
          keep args (elsePart.pieces ++ (.mark .closing e'' :: rest.pieces ++ more))
            ((!taken) :: branches) := fun taken => by
        rw [List.cons_append, keep, turn_otherwise, pure_bind, List.append_assoc]
      rw [Body.pieces, List.cons_append, keep, Run.bind_result, turn_opening h, Body.leaves,
        List.append_assoc]
      cases Condition.evaluateText (String.ofList q.chars) args with
      | error f => rfl
      | ok taken =>
          show (keep args (thenPart.pieces ++ _) (taken :: branches)).result = _
          cases taken with
          | true =>
              rw [ihThen (by simpa using h), hother, keep_skipped rfl, hclose]
              simp only [ok_bind, if_true, bind_assoc, List.flatMap_append, List.append_assoc]
          | false =>
              rw [keep_skipped rfl, hother, ihElse (by simpa using h), hclose]
              simp only [ok_bind, Bool.false_eq_true, if_false, bind_assoc, List.flatMap_append,
                List.append_assoc]

end

/-- Resolving the blocks of a printed template leaves the leaves that the
conditions leave, printed. -/
theorem process_print {limit : Int} {b : Body} (h : b.Clean limit) (args : Arguments) :
    (process ⟨.standard, .none, limit⟩ b.print args).result =
      (b.leaves args).map fun ls => ls.flatMap Leaf.print := by
  have hwithin : b.Within (limit - ([] : List Bool).length) := by
    rw [List.length_nil, Int.natCast_zero, Int.sub_zero]
    exact h.within
  have hpasses : Passes limit (⟨[], []⟩ : Building).opened (blockTags 0 b.pieces) [] :=
    passes_pieces hwithin
  have htree : ∃ nodes, Node.build limit 0 b.print (blockTags 0 b.pieces) ⟨[], []⟩ = .ok nodes :=
    hpasses.build
  obtain ⟨nodes, hnodes⟩ := htree
  have hwalk := walk_pieces args b.pieces [] [] []
  have hkeep : (keep args (b.pieces ++ []) []).result = _ := keep_pieces rfl
  rw [List.append_nil] at hkeep
  have hprocess : process ⟨.standard, .none, limit⟩ b.print args =
      walk args b.print 0 (blockTags 0 b.pieces) [] :=
    process_of_build args (scan_print h.apart) hnodes
  refine (congrArg Run.result (hprocess.trans hwalk)).trans ?_
  simp only [Run.bind_result, hkeep, keep, Run.pure_result, ok_bind, kept_nil, List.nil_append,
    List.append_nil]
  cases b.leaves args <;> rfl

/-! ## Values -/

/-- What is read behind the equals sign of a printed default is its value. -/
theorem read_default (d : Default) : Literal.read (trim (d.print.drop 1)) = d.value := by
  cases d with
  | quoted q =>
      show Literal.read (trim (q.quote :: (q.chars ++ [q.quote]))) = .ok (Value.ofChars q.chars)
      rw [Literal.trim_quoted q.isQuote, Literal.read_quoted q.isQuote]
  | bare t => rfl

section

variable {o : Options} {args : Arguments}

theorem plainValue_slot (s : Slot) (pos : Nat) :
    (o.plainValue (s.variable pos) args).result = s.plainValue o.strict args := by
  have hname : (s.variable pos).name = String.ofList s.name.chars := rfl
  have hdefault : (s.variable pos).default = s.default.map fun d => String.ofList d.print := rfl
  rw [Options.plainValue, Slot.plainValue, hname]
  cases args.find? (String.ofList s.name.chars) with
  | some v => rfl
  | none =>
      rcases hs : s.default with _ | d
      · rw [hs] at hdefault
        simp only [Variable.hasDefault, hdefault, Option.map_none, Option.isSome_none,
          Bool.false_eq_true, if_false]
        cases o.strict <;> rfl
      · rw [hs] at hdefault
        simp only [Variable.hasDefault, Variable.defaultValue, hdefault, Option.map_some,
          Option.isSome_some, if_true, String.toList_ofList, read_default, Run.bind_result,
          Run.ofExcept_result, Run.note_result, ok_bind, Run.pure_result]
        cases d.value <;> rfl

theorem valueOf_slot (s : Slot) (pos : Nat) :
    (o.valueOf (s.variable pos) args).result = s.value o.strict o.filters args := by
  have hfilter : (s.variable pos).filterName =
      s.filter.map fun f => String.ofList f.name.chars := rfl
  have hargs : (s.variable pos).filterArgs =
      s.filter.bind fun f => f.args.map fun a => String.ofList a.chars := rfl
  rw [Options.valueOf, Slot.value, Run.bind_result, plainValue_slot, hfilter]
  congr 1
  funext v
  rcases hs : s.filter with _ | f
  · rfl
  · have hne : (String.ofList f.name.chars).isEmpty = false := by
      simp [f.name.nonempty]
    have harguments : (s.variable pos).arguments = f.arguments := by
      rw [hs] at hargs
      rw [Variable.arguments, FilterUse.arguments, hargs, Option.bind_some]
      rcases f.args with _ | a
      · rfl
      · simp only [Option.map_some, String.toList_ofList]
    simp only [Option.map_some, hne, Bool.false_eq_true, if_false, Run.bind_result,
      Run.ofExcept_result, Run.note_result, ok_bind, harguments]

theorem splice_slot (s : Slot) (pos : Nat) (front more new : List Char)
    (rest : List (Variable × List Char)) :
    Options.splice pos (front ++ (s.print ++ more))
      ((s.variable (pos + front.length), new) :: rest) =
      front ++ (new ++ Options.splice (pos + front.length + s.print.length) more rest) := by
  have hstart : (s.variable (pos + front.length)).start - pos = front.length := by
    show pos + front.length - pos = _
    omega
  have hstop : (s.variable (pos + front.length)).stop - pos = front.length + s.print.length := by
    show pos + front.length + s.print.length - pos = _
    omega
  rw [Options.splice, hstart, hstop, List.take_left, ← List.drop_drop, List.drop_left,
    List.drop_left, List.append_assoc]
  rfl

/-- Splicing puts the values of the variable tags in their places. The text
in front of the first tag is taken over as it is. -/
theorem splice_leaves (args : Arguments) : ∀ (ls : List Leaf) (pos : Nat) (front : List Char),
    (do let new ← (o.replacements args (variableTags (pos + front.length) ls)).result
        .ok (Options.splice pos (front ++ ls.flatMap Leaf.print)
          ((variableTags (pos + front.length) ls).zip new))) = (do
      let parts ← ls.mapM (Leaf.meaning o.strict o.filters args)
      .ok (front ++ parts.flatten)) := by
  intro ls
  induction ls with
  | nil =>
      intro pos front
      rw [variableTags, List.mapM_nil, List.flatMap_nil]
      rfl
  | cons l ls ih =>
      intro pos front
      rw [List.flatMap_cons, List.mapM_cons]
      cases l with
      | text t =>
          have hnext := ih pos (front ++ t.chars)
          rw [List.length_append, ← Nat.add_assoc, List.append_assoc] at hnext
          rw [variableTags]
          refine hnext.trans ?_
          simp only [Leaf.meaning, ok_bind, bind_assoc, pure_bind, List.flatten_cons,
            List.append_assoc]
      | slot s =>
          have hnext := ih (pos + front.length + s.print.length) []
          simp only [List.length_nil, Nat.add_zero, List.nil_append] at hnext
          rw [variableTags, Options.replacements]
          simp only [Leaf.meaning, Leaf.print, Run.bind_result, valueOf_slot, Run.ofExcept_result,
            Run.pure_result, bind_assoc, ok_bind, pure_bind, List.zip_cons_cons, splice_slot,
            List.flatten_cons]
          congr 1
          funext value
          congr 1
          funext new
          have hbehind := congrArg (· >>= fun cs => .ok (front ++ (new ++ cs))) hnext
          simpa only [bind_assoc, ok_bind] using hbehind

end

theorem substitute_leaves (strict : Bool) (limit : Int) (filters : Registry) (args : Arguments)
    (ls : List Leaf) :
    ((⟨strict, .standard, .none, limit, filters⟩ : Options).substitute (ls.flatMap Leaf.print)
      args).result = (do
        let parts ← ls.mapM (Leaf.meaning strict filters args)
        .ok parts.flatten) := by
  have hsplice := splice_leaves (o := ⟨strict, .standard, .none, limit, filters⟩) args ls 0 []
  rw [Options.substitute]
  simp only [scan_leaves, Run.ofExcept_ok, pure_bind, Run.bind_result, Run.pure_result]
  simpa using hsplice

/-! ## Rendering -/

/-- What the three stages make of a printed template. -/
theorem renderChars_print {limit : Int} {b : Body} (h : b.Clean limit) (strict : Bool)
    (filters : Registry) (args : Arguments) :
    ((⟨strict, .standard, .none, limit, filters⟩ : Options).renderChars b.print args).result =
      b.meaning strict filters args := by
  have hstrip : (⟨strict, .standard, .none, limit, filters⟩ : Options).stripComments b.print =
      b.print := erase_comments (noComment_print b.pieces)
  have hblocks : ((⟨strict, .standard, .none, limit, filters⟩ : Options).resolveBlocks b.print
      args).result = _ := process_print h args
  rw [Options.renderChars, hstrip, Run.bind_result, hblocks, Body.meaning]
  cases b.leaves args with
  | error f => rfl
  | ok ls => exact substitute_leaves strict limit filters args ls

/-- A text without the first mark of a tag is its own rendering. -/
theorem renderText_plain {T : String} (hT : '<' ∉ T.toList) (strict : Bool) (limit : Int)
    (filters : Registry) (args : Arguments) :
    (⟨strict, .standard, .none, limit, filters⟩ : Options).renderText T args = .ok T := by
  obtain ⟨b, hclean, hprint, hmeaning⟩ : ∃ b : Body, b.Clean limit ∧ b.print = T.toList ∧
      b.meaning strict filters args = .ok T.toList := by
    cases hchars : T.toList with
    | nil => exact ⟨.done, ⟨by simp [Body.pieces], by simp [Body.Within]⟩, rfl, rfl⟩
    | cons c cs =>
        rw [hchars] at hT
        refine ⟨.leaf (.text ⟨c :: cs, List.cons_ne_nil c cs, hT⟩) .done,
          ⟨by simp [Body.pieces], by simp [Body.Within]⟩, List.append_nil _, ?_⟩
        exact congrArg Except.ok (List.append_nil (c :: cs))
  rw [Options.renderText, ← hprint, renderChars_print hclean, hmeaning]
  exact congrArg _ String.ofList_toList

/-- Rendering the template that is printed from a clean tree gives what the
tree stands for: each block is one of its branches or nothing, by its
condition, and each variable tag that is left is its value. Conditions come
before variable tags, both in the order of the text, and the first failure is
that of the whole. -/
theorem render_print {limit : Int} {b : Body} (h : b.Clean limit) (strict : Bool)
    (filters : Registry) (args : Arguments) :
    (⟨strict, .standard, .none, limit, filters⟩ : Options).render
      (.str (String.ofList b.print)) args =
        (b.meaning strict filters args).map fun cs => .str (String.ofList cs) := by
  rw [Options.render, Options.renderText, String.toList_ofList, renderChars_print h]
  cases b.meaning strict filters args <;> rfl

/-- A block whose first branch is a variable with a name that begins like a
block tag and a default that holds the end of a tag. -/
def sample : Body :=
  .leaf (.text ⟨['a', ' '], by decide, by decide⟩)
    (.choose ⟨['$', 'x', ' ', '<', ' ', '5'], ⟨_, rfl⟩, by decide, by decide, by decide⟩ .lf
      (.leaf (.slot ⟨⟨['i', 'f', 'y'], by decide, List.all_eq_true.1 rfl⟩, by decide,
        some (.quoted ⟨'"', ['%', '>'], by decide, by decide, by decide, by decide⟩), none⟩) .done)
      .none (.leaf (.text ⟨['b'], by decide, by decide⟩) .done) .none .done)

theorem render_print_sample :
    sample.Clean 1 ∧
      (⟨true, .standard, .none, 1, .empty⟩ : Options).render
        (.str "a <% if $x < 5 %>\n<% ify=\"%>\" %><% else %>b<% endif %>") [("x", .int 3)] =
          .ok (.str "a %>") := by
  have hclean : sample.Clean 1 := by
    refine ⟨?_, ?_⟩
    · simp [sample, Body.pieces, Apart, BeginsLine]
    · simp [sample, Body.Within]
  have hmeaning : sample.meaning true .empty [("x", .int 3)] = .ok ['a', ' ', '%', '>'] := rfl
  have hprint : String.ofList sample.print =
      "a <% if $x < 5 %>\n<% ify=\"%>\" %><% else %>b<% endif %>" := rfl
  have hrender := render_print hclean true .empty [("x", .int 3)]
  refine ⟨hclean, ?_⟩
  rw [← hprint]
  exact hrender.trans (congrArg _ hmeaning)

end Stencil.Printed
