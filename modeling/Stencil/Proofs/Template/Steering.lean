import Stencil.Proofs.Template.Listing
import Stencil.Proofs.Template.Outline
import Stencil.Proofs.Template.Trimmed
import Stencil.Proofs.Template.Walk

/-!
# Only the listed names steer a template

Which branches are taken depends on the arguments through the conditions
alone, and a condition asks for nothing but the names in it. The names that
are listed are found by dropping every exclamation mark in front of an
operand, while evaluating drops one; so a name that is asked for is listed,
or empty, since an operand may be a dollar sign and no more. With trimming
the tags are others, but their conditions are the same.

So two runs whose arguments agree on the listed names and on the empty one
have the same outline, and differ at most in what is put between its pieces.
-/

namespace Stencil

/-! ## What a condition asks for -/

namespace Condition

variable {args args' : Arguments}

/-- The name whose value an operand asks for, behind one exclamation mark at
most. -/
def asked? (raw : String) : Option String :=
  match raw.toList with
  | '!' :: '$' :: name => some (String.ofList name)
  | '$' :: name => some (String.ofList name)
  | _ => none

/-- The operands of a condition. -/
def operands (c : Condition) : List String := [some c.left, c.right].filterMap id

/-- A name that is asked for is empty or listed. -/
theorem asked?_listed {raw name : String} (h : asked? raw = some name) :
    name = "" ∨ nameIn? raw = some name := by
  have hname : ∀ cs : List Char, String.ofList cs = name → name = "" ∨
      (if cs.isEmpty then none else some (String.ofList cs)) = some name := by
    rintro cs rfl
    cases cs with
    | nil => exact .inl rfl
    | cons c cs => exact .inr rfl
  rw [asked?] at h
  rw [nameIn?]
  split at h
  · next cs heq =>
      rw [heq]
      exact hname cs (Option.some.inj h)
  · next cs heq =>
      rw [heq]
      exact hname cs (Option.some.inj h)
  · cases h

theorem asked?_names {c : Condition} {raw name : String} (hraw : raw ∈ c.operands)
    (h : asked? raw = some name) : name = "" ∨ name ∈ c.names :=
  (asked?_listed h).imp id fun hlisted => List.mem_filterMap.2 ⟨raw, hraw, hlisted⟩

theorem plainOperand_congr {raw : List Char}
    (h : ∀ name, raw = '$' :: name →
      args.find? (String.ofList name) = args'.find? (String.ofList name)) :
    plainOperand raw args = plainOperand raw args' := by
  unfold plainOperand
  split
  · next name => simp only [h name rfl]
  · rfl

theorem operand_congr {raw : String}
    (h : ∀ name, asked? raw = some name → args.find? name = args'.find? name) :
    operand raw args = operand raw args' := by
  rw [asked?] at h
  unfold operand
  split
  · next rest heq =>
      have hplain : plainOperand rest args = plainOperand rest args' := by
        refine plainOperand_congr fun name hname => ?_
        rw [heq, hname] at h
        exact h _ rfl
      rw [hplain]
  · next hmark =>
      refine plainOperand_congr fun name heq => ?_
      rw [heq] at h
      exact h _ rfl

/-- A condition depends on the arguments through the names it asks for. -/
theorem holds_congr {c : Condition}
    (h : ∀ raw ∈ c.operands, ∀ name, asked? raw = some name → args.find? name = args'.find? name) :
    c.holds args = c.holds args' := by
  have hleft : operand c.left args = operand c.left args' :=
    operand_congr (h c.left (by simp [operands]))
  have hright : operand (c.right.getD "") args = operand (c.right.getD "") args' := by
    cases hc : c.right with
    | none => rfl
    | some right => exact operand_congr (h right (by simp [operands, hc]))
  rw [holds, holds, hleft, hright]

theorem evaluate_congr {c : Condition}
    (h : ∀ name, name = "" ∨ name ∈ c.names → args.find? name = args'.find? name) :
    c.evaluate args = c.evaluate args' := by
  rw [evaluate, evaluate, holds_congr fun raw hraw name hasked => h name (asked?_names hraw hasked)]

end Condition

/-! ## Resolving blocks -/

namespace Node

variable {args args' : Arguments}

/-- Both arguments give every condition of the tags the same outcome. -/
def SameOutcomes (args args' : Arguments) (tags : List BlockTag) : Prop :=
  ∀ tag ∈ tags, tag.kind = .opening → ∀ c, Condition.parse (tag.condition.getD "") = .ok c →
    c.evaluate args = c.evaluate args'

theorem turn_congr {tag : BlockTag} (h : SameOutcomes args args' [tag]) (branches : List Bool) :
    turn args tag branches = turn args' tag branches := by
  unfold turn
  split
  · next hkind =>
      split
      · refine Run.bind_congr fun c hc => ?_
        rw [h tag List.mem_cons_self hkind c hc]
      · rfl
  · rfl
  · rfl

theorem walk_congr {cs : List Char} {tags : List BlockTag} : ∀ {pos : Nat} {branches : List Bool},
    SameOutcomes args args' tags →
    walk args cs pos tags branches = walk args' cs pos tags branches := by
  induction tags with
  | nil => intro pos branches _; rfl
  | cons tag tags ih =>
      intro pos branches h
      have htag : SameOutcomes args args' [tag] := by
        intro t ht
        rw [List.mem_singleton.1 ht]
        exact h tag List.mem_cons_self
      have hturn := turn_congr htag branches
      rw [walk, walk, hturn]
      refine Run.bind_congr fun next _ => ?_
      rw [ih fun t ht => h t (List.mem_cons_of_mem tag ht)]

theorem process_congr {s : Settings} {cs : List Char}
    (h : ∀ tags, BlockTag.scan s.patterns s.trimming cs = .ok tags → SameOutcomes args args' tags) :
    process s cs args = process s cs args' := by
  cases hparse : parse s cs with
  | error f =>
      rw [process, process, hparse]
      rfl
  | ok nodes =>
      obtain ⟨tags, htags, hbuild⟩ := bind_eq_ok.1 hparse
      rw [process_of_build args htags hbuild, process_of_build args' htags hbuild,
        walk_congr (h tags htags)]

end Node

/-! ## Two runs -/

namespace Options

variable {o : Options} {args args' : Arguments}

/-- Listing with the standard syntax goes over the tags of one pass. -/
theorem listVariables_eq_onePass (hpatterns : o.patterns = .standard) (template : String) :
    o.listVariables template = (do
      let vs ← Variable.scan o.patterns (o.stripComments template.toList)
      let inputs ← vs.foldlM addVariable ⟨[], [], []⟩
      (BlockTag.onePass .standard (o.stripComments template.toList)).foldlM addTag inputs) := by
  rw [listVariables, hpatterns]
  simp only [BlockTag.scan_eq_onePass, ok_bind]

/-- With the standard syntax, the conditions that are evaluated are listed,
whatever the trimming. -/
theorem scan_listed (hpatterns : o.patterns = .standard) {template : String} {inputs : Inputs}
    (hlist : o.listVariables template = .ok inputs) {tags : List BlockTag}
    (htags : BlockTag.scan o.patterns o.trimming (o.stripComments template.toList) = .ok tags) :
    ∀ tag ∈ tags, tag.kind = .opening → ∃ c, Condition.parse (tag.condition.getD "") = .ok c ∧
      ∀ name ∈ c.names, name ∈ inputs.conditions := by
  obtain ⟨vs, plain, _, hplain, hlists⟩ := listVariables_lists hlist
  rw [hpatterns] at htags hplain
  obtain ⟨plain', hplain', hcontent⟩ := BlockTag.scan_content _ _ htags
  rw [hplain] at hplain'
  cases hplain'
  intro tag hmem hkind
  have hsame : BlockTag.content tag ∈ plain.map BlockTag.content := by
    rw [← hcontent]
    exact List.mem_map_of_mem hmem
  obtain ⟨other, hother, heq⟩ := List.mem_map.1 hsame
  simp only [BlockTag.content, Prod.mk.injEq] at heq
  have hlisted := hlists.conditions other hother (heq.1.trans hkind)
  rwa [heq.2] at hlisted

theorem resolveBlocks_congr (hpatterns : o.patterns = .standard) {template : String}
    {inputs : Inputs} (hlist : o.listVariables template = .ok inputs)
    (hagree : ∀ name, name ∈ inputs.conditions ∨ name = "" → args.find? name = args'.find? name) :
    o.resolveBlocks (o.stripComments template.toList) args =
      o.resolveBlocks (o.stripComments template.toList) args' := by
  refine Node.process_congr fun tags htags tag hmem hkind c hc => ?_
  obtain ⟨c', hc', hnames⟩ := scan_listed hpatterns hlist htags tag hmem hkind
  rw [hc] at hc'
  cases hc'
  exact Condition.evaluate_congr fun name hname => hagree name (hname.symm.imp (hnames name) id)

/-- Arguments that agree on the listed conditions and on the empty name are
resolved alike, notes and failures included. So both runs fill one outline:
its pieces go into the output as they are, and what the arguments give its
tags is put between them and not looked at again. -/
theorem render_steered (hpatterns : o.patterns = .standard) {template : String} {inputs : Inputs}
    (hlist : o.listVariables template = .ok inputs)
    (hagree : ∀ name, name ∈ inputs.conditions ∨ name = "" → args.find? name = args'.find? name) :
    o.resolveBlocks (o.stripComments template.toList) args =
      o.resolveBlocks (o.stripComments template.toList) args' ∧
    o.outline template.toList args = o.outline template.toList args' ∧
    ∀ a ∈ [args, args'], o.renderChars template.toList a =
      (do
        let out ← o.outline template.toList args
        let values ← o.replacements a out.tags
        pure (Outline.interleave out.pieces values)) := by
  have hblocks := resolveBlocks_congr hpatterns hlist hagree
  have houtline : o.outline template.toList args = o.outline template.toList args' := by
    rw [outline, outline, hblocks]
  refine ⟨hblocks, houtline, fun a ha => ?_⟩
  simp only [List.mem_cons, List.not_mem_nil, or_false] at ha
  rcases ha with rfl | rfl
  · exact renderChars_eq_fill _
  · rw [houtline]
    exact renderChars_eq_fill _

/-- A variable inside a block, rendered strictly and with trimming. -/
def guarded : String := "<% if $c %><% a %><% endif %>"

def guardedOptions : Options := ⟨true, .standard, ⟨true, true⟩, 1, .empty⟩

theorem listVariables_guarded :
    guardedOptions.listVariables guarded = .ok ⟨["a"], [], ["c"]⟩ := by
  rw [listVariables_eq_onePass rfl]
  rfl

/-- A value that looks like a tag, and another value: the outline is the same. -/
theorem render_steered_guarded :
    guardedOptions.listVariables guarded = .ok ⟨["a"], [], ["c"]⟩ ∧
      (∀ name, name ∈ ["c"] ∨ name = "" →
        Arguments.find? [("c", .bool true), ("a", .str "<% c %>")] name =
          Arguments.find? [("a", .str "b"), ("c", .bool true)] name) ∧
      guardedOptions.outline guarded.toList [("c", .bool true), ("a", .str "<% c %>")] =
        guardedOptions.outline guarded.toList [("a", .str "b"), ("c", .bool true)] := by
  have hagree : ∀ name, name ∈ ["c"] ∨ name = "" →
      Arguments.find? [("c", .bool true), ("a", .str "<% c %>")] name =
        Arguments.find? [("a", .str "b"), ("c", .bool true)] name := by
    intro name hname
    simp only [List.mem_cons, List.not_mem_nil, or_false] at hname
    rcases hname with rfl | rfl <;> rfl
  exact ⟨listVariables_guarded, hagree, (render_steered rfl listVariables_guarded hagree).2.1⟩

end Options

end Stencil
