import Stencil.Proofs.Chaining
import Stencil.Template.Block

/-!
# Which tag sequences have a tree

The tags of a text have to be derivable from a small grammar: blocks one
after the other, each an `if`, some blocks, perhaps an `else` and more
blocks, and an `endif`. On top of that the nesting is bounded and every
condition has to be readable. `parse_iff_nesting` says that a tree is built
exactly then, and that otherwise the words of the refusal are those of the
first tag that offends, or those for a missing `endif` if none does.

Which tag offends is said without the builder's stack. `Leaves` says, by the
same grammar, which blocks a run of tags leaves open and which of them are
past their `else`; a tag offends against what the tags in front of it leave
open. The builder is tied to that by one lemma for each outcome of a tag,
`apply_leaves` and `apply_offends`, and the rest is about tags alone. What
makes "first" a definite word is that a run of tags leaves open one thing
only, which `after` computes.
-/

namespace Stencil.Node

/-! ## The grammar -/

mutual

/-- Blocks one after the other. -/
inductive Blocks : List BlockTag → Prop
  | empty : Blocks []
  | snoc {front block : List BlockTag} : Blocks front → Block block → Blocks (front ++ block)

/-- One block, with or without another branch. -/
inductive Block : List BlockTag → Prop
  | plain {i e : BlockTag} {body : List BlockTag} :
      i.kind = .opening → e.kind = .closing → Blocks body → Block (i :: (body ++ [e]))
  | choice {i o e : BlockTag} {body other : List BlockTag} :
      i.kind = .opening → o.kind = .otherwise → e.kind = .closing →
      Blocks body → Blocks other → Block (i :: (body ++ o :: (other ++ [e])))

end

/-- The tags leave these blocks open, innermost first, each with whether its
`else` has come. -/
inductive Leaves : List BlockTag → List Bool → Prop
  | none {body : List BlockTag} : Blocks body → Leaves body []
  | opening {front body : List BlockTag} {i : BlockTag} {opened : List Bool} :
      Leaves front opened → i.kind = .opening → Blocks body →
      Leaves (front ++ i :: body) (false :: opened)
  | otherwise {front body : List BlockTag} {o : BlockTag} {opened : List Bool} :
      Leaves front (false :: opened) → o.kind = .otherwise → Blocks body →
      Leaves (front ++ o :: body) (true :: opened)

/-- The text of a condition as the reader sees it. -/
def conditionText (tag : BlockTag) : String := tag.condition.getD ""

def Readable (tag : BlockTag) : Prop := ∃ c, Condition.parse (conditionText tag) = .ok c

/-- What is wrong with a tag where the given blocks are open. That an opening
tag stands too deep comes before what its condition looks like. -/
inductive Offends (maxDepth : Int) (opened : List Bool) (tag : BlockTag) : String → Prop
  | tooDeep : tag.kind = .opening → maxDepth ≤ opened.length →
      Offends maxDepth opened tag
        ("Conditions nested deeper than " ++ toString maxDepth ++ " levels.")
  | malformed : tag.kind = .opening → opened.length < maxDepth → ¬ Readable tag →
      Offends maxDepth opened tag ("Malformed condition '" ++ conditionText tag ++ "'.")
  | strayElse : tag.kind = .otherwise → opened = [] →
      Offends maxDepth opened tag "Unexpected <% else %> tag outside of a condition."
  | secondElse {outer : List Bool} : tag.kind = .otherwise → opened = true :: outer →
      Offends maxDepth opened tag "Too many <% else %> tags."
  | strayEndif : tag.kind = .closing → opened = [] →
      Offends maxDepth opened tag "Unexpected <% endif %> tag without a matching <% if %>."

/-- No tag offends against what the tags in front of it leave open. -/
def Faultless (maxDepth : Int) (tags : List BlockTag) : Prop :=
  ∀ front tag rest opened message, tags = front ++ tag :: rest → Leaves front opened →
    ¬ Offends maxDepth opened tag message

/-- What the tags are refused with: the words for the first tag that offends,
or those for a missing `endif` where no tag does and a block is still open. -/
inductive Refused (maxDepth : Int) (tags : List BlockTag) : String → Prop
  | offence {front rest : List BlockTag} {tag : BlockTag} {opened : List Bool} {message : String} :
      tags = front ++ tag :: rest → Faultless maxDepth front → Leaves front opened →
      Offends maxDepth opened tag message → Refused maxDepth tags message
  | unclosed {inner : Bool} {outer : List Bool} :
      Faultless maxDepth tags → Leaves tags (inner :: outer) →
      Refused maxDepth tags "Missing <% endif %> tag."

/-- The tags derive from the grammar, no block opens too deep, and every
condition can be read. -/
structure Accepted (maxDepth : Int) (tags : List BlockTag) : Prop where
  blocks : Blocks tags
  depth : ∀ front tag rest opened, tags = front ++ tag :: rest → tag.kind = .opening →
    Leaves front opened → opened.length < maxDepth
  conditions : ∀ tag ∈ tags, tag.kind = .opening → Readable tag

/-! ## What tags leave open is one thing -/

/-- The open blocks behind a tag; none if there is no place for the tag. -/
def afterTag (opened : List Bool) (tag : BlockTag) : Option (List Bool) :=
  match tag.kind, opened with
  | .opening, opened => some (false :: opened)
  | .otherwise, false :: outer => some (true :: outer)
  | .otherwise, _ => none
  | .closing, _ :: outer => some outer
  | .closing, [] => none

/-- The open blocks behind a run of tags. -/
def after (opened : List Bool) (tags : List BlockTag) : Option (List Bool) :=
  tags.foldlM afterTag opened

theorem after_append (opened : List Bool) (front back : List BlockTag) :
    after opened (front ++ back) = (after opened front).bind fun mid => after mid back := by
  simp only [after, List.foldlM_append]
  rfl

theorem after_cons (opened : List Bool) (tag : BlockTag) (tags : List BlockTag) :
    after opened (tag :: tags) = (afterTag opened tag).bind fun mid => after mid tags := by
  simp only [after, List.foldlM_cons]
  rfl

@[simp] theorem after_nil (opened : List Bool) : after opened [] = some opened := rfl

theorem afterTag_opening {opened : List Bool} {tag : BlockTag} (h : tag.kind = .opening) :
    afterTag opened tag = some (false :: opened) := by
  unfold afterTag
  simp only [h]

theorem afterTag_otherwise {opened : List Bool} {tag : BlockTag} (h : tag.kind = .otherwise) :
    afterTag (false :: opened) tag = some (true :: opened) := by
  unfold afterTag
  simp only [h]

theorem afterTag_closing {inner : Bool} {opened : List Bool} {tag : BlockTag}
    (h : tag.kind = .closing) : afterTag (inner :: opened) tag = some opened := by
  unfold afterTag
  simp only [h]

mutual

/-- Whole blocks leave open what was open before them. -/
theorem after_blocks {tags : List BlockTag} (h : Blocks tags) (opened : List Bool) :
    after opened tags = some opened := by
  match h with
  | .empty => rw [after_nil]
  | .snoc hfront hblock =>
      rw [after_append, after_blocks hfront, Option.bind_some, after_block hblock]

theorem after_block {tags : List BlockTag} (h : Block tags) (opened : List Bool) :
    after opened tags = some opened := by
  match h with
  | .plain hi he hbody =>
      rw [after_cons, afterTag_opening hi, Option.bind_some, after_append, after_blocks hbody,
        Option.bind_some, after_cons, afterTag_closing he, Option.bind_some, after_nil]
  | .choice hi ho he hbody hother =>
      rw [after_cons, afterTag_opening hi, Option.bind_some, after_append, after_blocks hbody,
        Option.bind_some, after_cons, afterTag_otherwise ho, Option.bind_some, after_append,
        after_blocks hother, Option.bind_some, after_cons, afterTag_closing he,
        Option.bind_some, after_nil]

end

theorem Leaves.after_eq {tags : List BlockTag} {opened : List Bool} (h : Leaves tags opened) :
    after [] tags = some opened := by
  induction h with
  | none hbody => exact after_blocks hbody []
  | opening _ hi hbody ih =>
      rw [after_append, ih, Option.bind_some, after_cons, afterTag_opening hi, Option.bind_some,
        after_blocks hbody]
  | otherwise _ ho hbody ih =>
      rw [after_append, ih, Option.bind_some, after_cons, afterTag_otherwise ho,
        Option.bind_some, after_blocks hbody]

theorem Leaves.unique {tags : List BlockTag} {opened opened' : List Bool}
    (h : Leaves tags opened) (h' : Leaves tags opened') : opened = opened' := by
  have heq := h.after_eq.symm.trans h'.after_eq
  simpa using heq

/-- A whole block behind some tags leaves open what they do. -/
theorem Leaves.append_block {tags block : List BlockTag} {opened : List Bool}
    (h : Leaves tags opened) (hblock : Block block) : Leaves (tags ++ block) opened := by
  cases h with
  | none hbody => exact .none (.snoc hbody hblock)
  | opening hfront hi hbody =>
      rw [List.append_assoc, List.cons_append]
      exact .opening hfront hi (.snoc hbody hblock)
  | otherwise hfront ho hbody =>
      rw [List.append_assoc, List.cons_append]
      exact .otherwise hfront ho (.snoc hbody hblock)

/-- An `endif` closes the innermost block, whichever branch it is in. -/
theorem Leaves.close {tags : List BlockTag} {e : BlockTag} {inner : Bool} {outer : List Bool}
    (h : Leaves tags (inner :: outer)) (he : e.kind = .closing) :
    Leaves (tags ++ [e]) outer := by
  cases h with
  | opening hfront hi hbody =>
      rw [List.append_assoc, List.cons_append]
      exact hfront.append_block (.plain hi he hbody)
  | otherwise hfront ho hother =>
      cases hfront with
      | opening hfront hi hbody =>
          simp only [List.append_assoc, List.cons_append]
          exact hfront.append_block (.choice hi ho he hbody hother)

/-- One more tag with a place leaves open what `afterTag` says. -/
theorem Leaves.snoc {tags : List BlockTag} {tag : BlockTag} {opened next : List Bool}
    (h : Leaves tags opened) (hnext : afterTag opened tag = some next) :
    Leaves (tags ++ [tag]) next := by
  unfold afterTag at hnext
  split at hnext
  · next hkind => cases hnext; exact .opening h hkind .empty
  · next hkind => cases hnext; exact .otherwise h hkind .empty
  · cases hnext
  · next hkind => cases hnext; exact h.close hkind
  · cases hnext

/-- What a run of tags leaves open is what `after` computes. -/
theorem leaves_of_after {opened : List Bool} : ∀ {tags front : List BlockTag} {mid : List Bool},
    Leaves front mid → after mid tags = some opened → Leaves (front ++ tags) opened := by
  intro tags
  induction tags with
  | nil => intro front mid hfront h; cases h; rwa [List.append_nil]
  | cons tag tags ih =>
      intro front mid hfront h
      rw [after_cons] at h
      obtain ⟨next, hnext, h⟩ := Option.bind_eq_some_iff.1 h
      have hall := ih (hfront.snoc hnext) h
      rwa [List.append_assoc] at hall

/-- Tags with a place for each leave something open at every point. -/
theorem Leaves.front {front back : List BlockTag} {opened : List Bool}
    (h : Leaves (front ++ back) opened) :
    ∃ mid, Leaves front mid ∧ after mid back = some opened := by
  have heq := h.after_eq
  rw [after_append] at heq
  obtain ⟨mid, hmid, hback⟩ := Option.bind_eq_some_iff.1 heq
  exact ⟨mid, leaves_of_after (.none .empty) hmid, hback⟩

/-! ## The builder -/

/-- The open blocks of a tree that is being built, each with whether it is in
its other branch. -/
def Building.opened (b : Building) : List Bool := b.stack.map fun o => o.elsePart.isSome

theorem opened_push (b : Building) (n : Node) : (b.push n).opened = b.opened := by
  cases hstack : b.stack with
  | nil => simp [Building.opened, Building.push, hstack]
  | cons o outer =>
      cases helse : o.elsePart <;>
        simp [Building.opened, Building.push, Opened.push, hstack, helse]

theorem opened_pushText (b : Building) (cs : List Char) : (b.pushText cs).opened = b.opened := by
  unfold Building.pushText
  split
  · rfl
  · exact opened_push b _

/-- A tag that the builder takes offends against nothing. -/
theorem apply_leaves {maxDepth : Int} {tag : BlockTag} {b next : Building}
    (h : b.apply maxDepth tag = .ok next) :
    afterTag b.opened tag = some next.opened ∧
      ∀ message, ¬ Offends maxDepth b.opened tag message := by
  have hlength : b.opened.length = b.stack.length := by simp [Building.opened]
  unfold Building.apply at h
  cases hkind : tag.kind with
  | opening =>
      simp only [hkind] at h
      split at h
      · cases h
      · next hdepth =>
          obtain ⟨c, hc, h⟩ := bind_eq_ok.1 h
          cases h
          refine ⟨by rw [afterTag_opening hkind]; rfl, fun message hoff => ?_⟩
          cases hoff with
          | tooDeep _ hdeep => rw [hlength] at hdeep; exact hdepth hdeep
          | malformed _ _ hread => exact hread ⟨c, hc⟩
          | strayElse hother _ | secondElse hother _ | strayEndif hother _ => simp_all
  | otherwise =>
      simp only [hkind] at h
      split at h
      · cases h
      · next o outer hstack =>
          split at h
          · cases h
          · next helse =>
              cases h
              have hopened : b.opened = false :: outer.map fun o => o.elsePart.isSome := by
                simp [Building.opened, hstack, helse]
              rw [hopened, afterTag_otherwise hkind]
              refine ⟨rfl, fun message hoff => ?_⟩
              cases hoff <;> simp_all
  | closing =>
      simp only [hkind] at h
      split at h
      · cases h
      · next o outer hstack =>
          cases h
          have hopened : b.opened =
              o.elsePart.isSome :: outer.map fun o => o.elsePart.isSome := by
            simp [Building.opened, hstack]
          rw [opened_push, hopened, afterTag_closing hkind]
          refine ⟨rfl, fun message hoff => ?_⟩
          cases hoff <;> simp_all

/-- A tag that the builder refuses offends, and the refusal says so. -/
theorem apply_offends {maxDepth : Int} {tag : BlockTag} {b : Building} {f : Failure}
    (h : b.apply maxDepth tag = .error f) :
    f.kind = .structural ∧ ∃ message, f.message? = some message ∧
      Offends maxDepth b.opened tag message := by
  have hlength : b.opened.length = b.stack.length := by simp [Building.opened]
  unfold Building.apply at h
  cases hkind : tag.kind with
  | opening =>
      simp only [hkind] at h
      split at h
      · next hdepth =>
          cases h
          exact ⟨rfl, _, rfl, .tooDeep hkind (by rw [hlength]; exact hdepth)⟩
      · next hdepth =>
          cases hread : Condition.read? (conditionText tag).toList with
          | some c => simp [Condition.parse, conditionText] at h hread; simp [hread] at h
          | none =>
              have hparse : Condition.parse (conditionText tag) =
                  .error (.structural (.malformedCondition (conditionText tag))) := by
                simp only [Condition.parse, hread]
              rw [show tag.condition.getD "" = conditionText tag from rfl, hparse] at h
              cases h
              refine ⟨rfl, _, rfl, .malformed hkind (by omega) ?_⟩
              rintro ⟨c, hc⟩
              rw [hparse] at hc
              cases hc
  | otherwise =>
      simp only [hkind] at h
      split at h
      · next hstack =>
          cases h
          exact ⟨rfl, _, rfl, .strayElse hkind (by simp [Building.opened, hstack])⟩
      · next o outer hstack =>
          split at h
          · next helse =>
              cases h
              have hopened : b.opened = true :: outer.map fun o => o.elsePart.isSome := by
                simp [Building.opened, hstack, helse]
              exact ⟨rfl, _, rfl, .secondElse hkind hopened⟩
          · cases h
  | closing =>
      simp only [hkind] at h
      split at h
      · next hstack =>
          cases h
          exact ⟨rfl, _, rfl, .strayEndif hkind (by simp [Building.opened, hstack])⟩
      · cases h

theorem Faultless.snoc {maxDepth : Int} {tags : List BlockTag} {tag : BlockTag}
    {opened : List Bool} (h : Faultless maxDepth tags) (hleaves : Leaves tags opened)
    (htag : ∀ message, ¬ Offends maxDepth opened tag message) :
    Faultless maxDepth (tags ++ [tag]) := by
  intro front tag' rest opened' message heq hfront hoff
  rcases List.eq_nil_or_concat rest with hrest | ⟨rest, last, hrest⟩
  · subst hrest
    obtain ⟨rfl, htail⟩ := List.append_inj' heq rfl
    cases htail
    rw [hfront.unique hleaves] at hoff
    exact htag message hoff
  · subst hrest
    rw [List.concat_eq_append, ← List.cons_append, ← List.append_assoc] at heq
    exact h _ _ _ _ _ (List.append_inj_left' heq rfl) hfront hoff

/-- The builder, from any point on: it ends with a tree behind tags that
leave nothing open and do not offend, and refuses the tags otherwise. -/
theorem build_spec {maxDepth : Int} : ∀ (tags : List BlockTag) {front : List BlockTag}
    (pos : Nat) (rest : List Char) {b : Building}, Leaves front b.opened → Faultless maxDepth front →
    match build maxDepth pos rest tags b with
    | .ok _ => Leaves (front ++ tags) [] ∧ Faultless maxDepth (front ++ tags)
    | .error f => f.kind = .structural ∧ ∃ message, f.message? = some message ∧
        Refused maxDepth (front ++ tags) message := by
  intro tags
  induction tags with
  | nil =>
      intro front pos rest b hleaves hfaultless
      rw [List.append_nil, build]
      cases hstack : b.stack with
      | nil =>
          have hopened : b.opened = [] := by simp [Building.opened, hstack]
          rw [hopened] at hleaves
          exact ⟨hleaves, hfaultless⟩
      | cons o outer =>
          have hopened : b.opened =
              o.elsePart.isSome :: outer.map fun o => o.elsePart.isSome := by
            simp [Building.opened, hstack]
          rw [hopened] at hleaves
          exact ⟨rfl, _, rfl, .unclosed hfaultless hleaves⟩
  | cons tag tags ih =>
      intro front pos rest b hleaves hfaultless
      rw [build]
      rw [← opened_pushText b (rest.take (tag.start - pos))] at hleaves
      cases happly : (b.pushText (rest.take (tag.start - pos))).apply maxDepth tag with
      | error f =>
          obtain ⟨hkind, message, hmessage, hoff⟩ := apply_offends happly
          exact ⟨hkind, message, hmessage, .offence rfl hfaultless hleaves hoff⟩
      | ok next =>
          obtain ⟨hafter, hnot⟩ := apply_leaves happly
          have hnext := ih tag.stop (rest.drop (tag.stop - pos)) (hleaves.snoc hafter)
            (hfaultless.snoc hleaves hnot)
          rw [List.append_assoc, List.singleton_append] at hnext
          exact hnext

/-! ## Tags alone -/

theorem Offends.unique {maxDepth : Int} {opened : List Bool} {tag : BlockTag} {m m' : String}
    (h : Offends maxDepth opened tag m) (h' : Offends maxDepth opened tag m') : m = m' := by
  cases h <;> cases h' <;> simp_all <;> omega

/-- Of two tags that offend and follow no offence, the second cannot stand
behind the first. -/
theorem Offends.first {maxDepth : Int} {front mid rest rest' : List BlockTag} {tag tag' : BlockTag}
    {opened opened' : List Bool} {m m' : String} (hfaultless : Faultless maxDepth (front ++ mid))
    (hrest : tag :: rest = mid ++ tag' :: rest') (hleaves : Leaves front opened)
    (hleaves' : Leaves (front ++ mid) opened') (h : Offends maxDepth opened tag m)
    (h' : Offends maxDepth opened' tag' m') : m = m' := by
  cases mid with
  | nil =>
      cases hrest
      rw [List.append_nil] at hleaves'
      rw [hleaves.unique hleaves'] at h
      exact h.unique h'
  | cons t mid =>
      cases hrest
      exact absurd h (hfaultless _ _ _ _ _ rfl hleaves)

theorem Refused.unique {maxDepth : Int} {tags : List BlockTag} {m m' : String}
    (h : Refused maxDepth tags m) (h' : Refused maxDepth tags m') : m = m' := by
  cases h with
  | unclosed hfaultless _ =>
      cases h' with
      | unclosed _ _ => rfl
      | offence heq _ hleaves hoff => exact absurd hoff (hfaultless _ _ _ _ _ heq hleaves)
  | @offence front rest tag opened _ heq hfaultless hleaves hoff =>
      cases h' with
      | unclosed hfaultless' _ => exact absurd hoff (hfaultless' _ _ _ _ _ heq hleaves)
      | @offence front' rest' tag' opened' _ heq' hfaultless' hleaves' hoff' =>
          rw [heq] at heq'
          rcases List.append_eq_append_iff.1 heq' with ⟨mid, hmid, hrest⟩ | ⟨mid, hmid, hrest⟩
          · subst hmid
            exact hoff.first hfaultless' hrest hleaves hleaves' hoff'
          · subst hmid
            exact (hoff'.first hfaultless hrest hleaves' hleaves hoff).symm

theorem accepted_iff {maxDepth : Int} {tags : List BlockTag} :
    Accepted maxDepth tags ↔ Leaves tags [] ∧ Faultless maxDepth tags := by
  constructor
  · intro h
    refine ⟨.none h.blocks, ?_⟩
    intro front tag rest opened message heq hleaves hoff
    have hafter := after_blocks h.blocks []
    rw [heq, after_append, hleaves.after_eq, Option.bind_some, after_cons] at hafter
    obtain ⟨next, hnext, _⟩ := Option.bind_eq_some_iff.1 hafter
    cases hoff with
    | tooDeep hkind hdeep =>
        have := h.depth front tag rest opened heq hkind hleaves
        omega
    | malformed hkind _ hread => exact hread (h.conditions tag (by simp [heq]) hkind)
    | strayElse hkind hopened | secondElse hkind hopened | strayEndif hkind hopened =>
        simp [afterTag, hkind, hopened] at hnext
  · rintro ⟨hleaves, hfaultless⟩
    refine ⟨?_, ?_, ?_⟩
    · cases hleaves with
      | none hblocks => exact hblocks
    · intro front tag rest opened heq hkind hfront
      exact Int.lt_of_not_ge fun hdeep =>
        hfaultless front tag rest opened _ heq hfront (.tooDeep hkind hdeep)
    · intro tag hmem hkind
      obtain ⟨front, rest, heq⟩ := List.append_of_mem hmem
      rw [heq] at hleaves
      obtain ⟨opened, hfront, _⟩ := hleaves.front
      refine Classical.byContradiction fun hread => ?_
      by_cases hdeep : maxDepth ≤ opened.length
      · exact hfaultless front tag rest opened _ heq hfront (.tooDeep hkind hdeep)
      · exact hfaultless front tag rest opened _ heq hfront
          (.malformed hkind (by omega) hread)

theorem not_refused_of_accepted {maxDepth : Int} {tags : List BlockTag} {message : String}
    (h : Accepted maxDepth tags) : ¬ Refused maxDepth tags message := by
  obtain ⟨hleaves, hfaultless⟩ := accepted_iff.1 h
  intro hrefused
  cases hrefused with
  | offence heq _ hfront hoff => exact hfaultless _ _ _ _ _ heq hfront hoff
  | unclosed _ hopen => cases hleaves.unique hopen

/-- A text has a tree exactly if its tags are accepted. If they are not, the
refusal is one of structure and its words are those of the first tag that
offends, or of the missing `endif`. Where the tags cannot be told at all,
because a condition is no part of the syntax, that failure is passed on. -/
theorem parse_iff_nesting (s : Settings) (cs : List Char) :
    match BlockTag.scan s.patterns s.trimming cs with
    | .error f => parse s cs = .error f
    | .ok tags =>
        ((∃ nodes, parse s cs = .ok nodes) ↔ Accepted s.maxDepth tags) ∧
        (¬ Accepted s.maxDepth tags → ∃ f, parse s cs = .error f ∧ f.kind = .structural) ∧
        ∀ message, (∃ f, parse s cs = .error f ∧ f.message? = some message) ↔
          Refused s.maxDepth tags message := by
  cases hscan : BlockTag.scan s.patterns s.trimming cs with
  | error f =>
      show parse s cs = .error f
      rw [parse, hscan]
      rfl
  | ok tags =>
      have hparse : parse s cs = build s.maxDepth 0 cs tags ⟨[], []⟩ := by
        rw [parse, hscan]
        rfl
      have hempty : Faultless s.maxDepth [] := by
        intro front tag rest _ _ heq
        simp at heq
      have hleaves : Leaves [] (⟨[], []⟩ : Building).opened := .none .empty
      have hspec := build_spec tags 0 cs hleaves hempty
      rw [← hparse, List.nil_append] at hspec
      show _ ∧ _ ∧ _
      cases hout : parse s cs with
      | ok nodes =>
          rw [hout] at hspec
          have haccepted := accepted_iff.2 hspec
          refine ⟨⟨fun _ => haccepted, fun _ => ⟨nodes, rfl⟩⟩, fun hnot => absurd haccepted hnot,
            fun message => ⟨?_, fun hrefused => absurd hrefused
              (not_refused_of_accepted haccepted)⟩⟩
          rintro ⟨f, hf, _⟩
          cases hf
      | error f =>
          rw [hout] at hspec
          obtain ⟨hkind, words, hwords, hrefused⟩ := hspec
          refine ⟨⟨?_, fun haccepted => absurd hrefused (not_refused_of_accepted haccepted)⟩,
            fun _ => ⟨f, rfl, hkind⟩, fun message => ⟨?_, fun hmessage => ⟨f, rfl, ?_⟩⟩⟩
          · rintro ⟨nodes, hnodes⟩
            cases hnodes
          · rintro ⟨f', hf', hmessage⟩
            cases hf'
            rw [hwords] at hmessage
            cases hmessage
            exact hrefused
          · rw [hwords, hrefused.unique hmessage]

end Stencil.Node
