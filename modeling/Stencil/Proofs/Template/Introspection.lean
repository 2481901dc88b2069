import Stencil.Proofs.Template.Steering
import Stencil.Proofs.Template.Strictness
import Stencil.Proofs.Template.Surfacing
import Stencil.Proofs.Value.Faults
import Stencil.Template.Settings

/-!
# What arguments a template needs

Listing tells which names a template asks for, so arguments that have all of
them should be enough. Two things escape it. A condition may ask for the
empty name, by a dollar sign alone, and the empty name is never listed. And a
variable tag may be found only once blocks are resolved, while listing looks
at the template as it stands. `render_unresolved` says that there is nothing
else: a variable is missing for one of these two reasons.

A failure is followed back to the place where it comes from. In the first
stage that can fail for want of a variable, resolving blocks, it comes from
an operand; in the other one it comes from a tag of the outline.
-/

namespace Stencil

variable {args : Arguments} {name : String}

/-! ## Conditions -/

namespace Condition

theorem plainOperand_unresolved {raw : List Char}
    (h : plainOperand raw args = .error (.unresolved name)) :
    raw = '$' :: name.toList ∧ args.find? name = none := by
  have hshape : ∀ v : Value, (if v.isStructured then
      .error (.structuredOperand (String.ofList raw) v.shape) else .ok v : Except Failure Value) ≠
        .error (.unresolved name) := by
    intro v
    split <;> rintro ⟨⟩
  unfold plainOperand at h
  split at h
  · next chars =>
      dsimp only at h
      cases hfind : args.find? (String.ofList chars) with
      | some v =>
          rw [hfind] at h
          exact absurd h (hshape v)
      | none =>
          rw [hfind] at h
          cases h
          exact ⟨by rw [String.toList_ofList], hfind⟩
  · rcases bind_eq_error.1 h with hread | ⟨v, _, hv⟩
    · exact absurd rfl ((Literal.read_fails raw _ hread).notMissing name)
    · exact absurd hv (hshape v)

theorem operand_unresolved {raw : String} (h : operand raw args = .error (.unresolved name)) :
    asked? raw = some name ∧ args.find? name = none := by
  unfold operand at h
  rw [asked?]
  split at h
  · next rest heq =>
      obtain ⟨rfl, hfind⟩ := plainOperand_unresolved (map_eq_error.1 h)
      rw [heq]
      exact ⟨congrArg some String.ofList_toList, hfind⟩
  · obtain ⟨heq, hfind⟩ := plainOperand_unresolved h
    rw [heq]
    exact ⟨congrArg some String.ofList_toList, hfind⟩

/-- A condition fails for want of a variable that one of its operands asks
for. -/
theorem holds_unresolved {c : Condition} (h : c.holds args = .error (.unresolved name)) :
    ∃ raw ∈ c.operands, asked? raw = some name ∧ args.find? name = none := by
  rcases bind_eq_error.1 h with hleft | ⟨left, _, h⟩
  · exact ⟨c.left, by simp [operands], operand_unresolved hleft⟩
  · dsimp only at h
    split at h
    · cases h
    · split at h
      · cases h
      · next op _ =>
          rcases bind_eq_error.1 h with hright | ⟨right, _, h⟩
          · obtain ⟨hasked, hfind⟩ := operand_unresolved hright
            cases hc : c.right with
            | none => rw [hc] at hasked; cases hasked
            | some right =>
                rw [hc] at hasked
                exact ⟨right, by simp [operands, hc], hasked, hfind⟩
          · exact absurd rfl ((Comparison.holds_fails op _ _ _ h).notMissing name)

end Condition

/-! ## Resolving blocks -/

namespace Node

theorem apply_fails (maxDepth : Int) (tag : BlockTag) (b : Building) :
    FailsOnly (fun f => f.kind = .structural) (b.apply maxDepth tag) := by
  unfold Building.apply
  split
  · split
    · exact .error rfl
    · exact (Condition.parse_fails _).bind fun c _ => .ok _
  · split
    · exact .error rfl
    · split
      · exact .error rfl
      · exact .ok _
  · split
    · exact .error rfl
    · exact .ok _

theorem build_fails (maxDepth : Int) : ∀ {tags : List BlockTag} {pos : Nat} {rest : List Char}
    {b : Building}, FailsOnly (fun f => f.kind = .structural) (build maxDepth pos rest tags b) := by
  intro tags
  induction tags with
  | nil =>
      intro pos rest b
      rw [build]
      split
      · exact .ok _
      · exact .error rfl
  | cons tag tags ih =>
      intro pos rest b
      rw [build]
      exact (apply_fails _ _ _).bind fun next _ => ih

/-- A walk fails at a condition, when that is read or when it is evaluated. -/
theorem walk_fails {cs : List Char} {f : Failure} : ∀ {tags : List BlockTag} {pos : Nat}
    {branches : List Bool}, (walk args cs pos tags branches).result = .error f →
    ∃ tag ∈ tags, tag.kind = .opening ∧ (Condition.parse (tag.condition.getD "") = .error f ∨
      ∃ c, Condition.parse (tag.condition.getD "") = .ok c ∧ c.holds args = .error f) := by
  intro tags
  induction tags with
  | nil => intro pos branches h; cases h
  | cons tag tags ih =>
      intro pos branches h
      simp only [walk, Run.bind_result] at h
      rcases bind_eq_error.1 h with hturn | ⟨next, _, h⟩
      · refine ⟨tag, List.mem_cons_self, ?_⟩
        unfold turn at hturn
        split at hturn
        · next hkind =>
            refine ⟨hkind, ?_⟩
            split at hturn
            · simp only [Run.bind_result, Run.ofExcept_result, evaluate_result] at hturn
              rcases bind_eq_error.1 hturn with hparse | ⟨c, hc, hturn⟩
              · exact .inl hparse
              · rcases bind_eq_error.1 hturn with hholds | ⟨_, _, hturn⟩
                · exact .inr ⟨c, hc, hholds⟩
                · cases hturn
            · cases hturn
        · split at hturn <;> cases hturn
        · cases hturn
      · rcases bind_eq_error.1 h with hrest | ⟨rest, _, h⟩
        · obtain ⟨t, ht, hfails⟩ := ih hrest
          exact ⟨t, List.mem_cons_of_mem tag ht, hfails⟩
        · cases h

/-- Resolving blocks fails for want of a variable that an operand of some
opening tag asks for. -/
theorem process_unresolved {s : Settings} {cs : List Char} {tags : List BlockTag}
    (htags : BlockTag.scan s.patterns s.trimming cs = .ok tags)
    (h : (process s cs args).result = .error (.unresolved name)) :
    ∃ tag ∈ tags, tag.kind = .opening ∧ ∃ c, Condition.parse (tag.condition.getD "") = .ok c ∧
      ∃ raw ∈ c.operands, Condition.asked? raw = some name ∧ args.find? name = none := by
  cases hbuild : build s.maxDepth 0 cs tags ⟨[], []⟩ with
  | error f =>
      have hparse : parse s cs = .error f := by rw [parse, htags, ok_bind, hbuild]
      rw [process, hparse] at h
      cases h
      cases build_fails s.maxDepth _ hbuild
  | ok nodes =>
      rw [process_of_build args htags hbuild] at h
      obtain ⟨tag, hmem, hkind, hparse | ⟨c, hc, hholds⟩⟩ := walk_fails h
      · cases Condition.parse_fails _ _ hparse
      · exact ⟨tag, hmem, hkind, c, hc, Condition.holds_unresolved hholds⟩

end Node

/-! ## Replacing variables -/

namespace Options

variable {o : Options} {v : Variable} {vs : List Variable}

theorem plainValue_unresolved (h : (o.plainValue v args).result = .error (.unresolved name)) :
    isMissing args v = true ∧ v.name = name := by
  unfold plainValue at h
  cases hfind : args.find? v.name with
  | some value =>
      rw [hfind] at h
      cases h
  | none =>
      rw [hfind] at h
      dsimp only at h
      split at h
      · rw [Run.bind_result] at h
        rcases bind_eq_error.1 h with hdefault | ⟨_, _, h⟩
        · exact absurd rfl ((v.defaultValue_fails _ hdefault).notMissing name)
        · cases h
      · next hdefault =>
          split at h
          · cases h
            exact ⟨by simp [isMissing, hfind, hdefault], rfl⟩
          · cases h

theorem valueOf_unresolved (h : (o.valueOf v args).result = .error (.unresolved name)) :
    isMissing args v = true ∧ v.name = name := by
  rw [valueOf, Run.bind_result] at h
  rcases bind_eq_error.1 h with hplain | ⟨value, _, h⟩
  · exact plainValue_unresolved hplain
  · split at h
    · cases h
    · next filter _ =>
        split at h
        · cases h
        · simp only [Run.bind_result, Run.ofExcept_result, Run.note_result, ok_bind] at h
          rcases bind_eq_error.1 h with hmore | ⟨more, _, h⟩
          · exact absurd rfl ((v.arguments_fails _ hmore).notMissing name)
          · exact absurd rfl (o.filters.apply_fails filter value more _ h name)

theorem replacements_unresolved (h : (o.replacements args vs).result = .error (.unresolved name)) :
    ∃ v ∈ vs, isMissing args v = true ∧ v.name = name := by
  induction vs with
  | nil => cases h
  | cons v vs ih =>
      simp only [replacements_cons, Run.bind_result] at h
      rcases bind_eq_error.1 h with hvalue | ⟨value, _, h⟩
      · exact ⟨v, List.mem_cons_self, valueOf_unresolved hvalue⟩
      · rcases bind_eq_error.1 h with hchars | ⟨chars, _, h⟩
        · exact absurd rfl ((value.renderChars_fails _ hchars).notMissing name)
        · rcases bind_eq_error.1 h with hrest | ⟨rest, _, h⟩
          · obtain ⟨w, hw, hmissing⟩ := ih hrest
            exact ⟨w, List.mem_cons_of_mem v hw, hmissing⟩
          · cases h

/-! ## Rendering with what is listed -/

/-- Some condition of the text asks for the empty name. -/
def AsksEmpty (o : Options) (cs : List Char) : Prop :=
  ∃ tags, BlockTag.scan o.patterns o.trimming cs = .ok tags ∧ ∃ tag ∈ tags, tag.kind = .opening ∧
    ∃ c, Condition.parse (tag.condition.getD "") = .ok c ∧
      ∃ raw ∈ c.operands, Condition.asked? raw = some ""

/-- A variable tag that is missing is there only once blocks are resolved. -/
def MissesSurfaced (o : Options) (cs : List Char) (args : Arguments) (out : Outline)
    (name : String) : Prop :=
  ∃ places found, (o.keptPlaces cs args).result = .ok places ∧ out.text = charsAt cs places ∧
    Variable.scan o.patterns cs = .ok found ∧
      ∃ v ∈ out.tags, v.name = name ∧ isMissing args v = true ∧ v.Surfaces places found

/-- The conditions of a template ask for nothing but listed names and the empty
one. -/
theorem resolveBlocks_unresolved (hpatterns : o.patterns = .standard) {template : String}
    {inputs : Inputs} (hlist : o.listVariables template = .ok inputs) (hgiven : inputs.GivenBy args)
    (h : (o.resolveBlocks (o.stripComments template.toList) args).result =
      .error (.unresolved name)) :
    name = "" ∧ o.AsksEmpty (o.stripComments template.toList) := by
  obtain ⟨tags, htags⟩ : ∃ tags,
      BlockTag.scan o.patterns o.trimming (o.stripComments template.toList) = .ok tags := by
    rw [hpatterns, BlockTag.scan, BlockTag.found_standard]
    exact ⟨_, rfl⟩
  obtain ⟨tag, hmem, hkind, c, hc, raw, hraw, hasked, hfind⟩ := Node.process_unresolved htags h
  obtain ⟨c', hc', hnames⟩ := scan_listed hpatterns hlist htags tag hmem hkind
  rw [hc] at hc'
  cases hc'
  rcases Condition.asked?_names hraw hasked with rfl | hname
  · exact ⟨rfl, tags, htags, tag, hmem, hkind, c, hc, raw, hraw, hasked⟩
  · have hsome := hgiven name (.inr (hnames name hname))
    rw [hfind] at hsome
    cases hsome

/-- With arguments for every listed name, rendering fails for want of a
variable in two cases only: a condition asks for the empty name, or the
variable tag is no tag of the template and is found only once blocks are
resolved. -/
theorem render_unresolved (hpatterns : o.patterns = .standard) {template : String}
    {inputs : Inputs} (hlist : o.listVariables template = .ok inputs) (hgiven : inputs.GivenBy args)
    (h : o.render (.str template) args = .error (.unresolved name)) :
    (name = "" ∧ o.AsksEmpty (o.stripComments template.toList)) ∨
      ∃ out, (o.outline template.toList args).result = .ok out ∧
        o.MissesSurfaced (o.stripComments template.toList) args out name := by
  rw [render_result, map_eq_error, Run.bind_result] at h
  rcases bind_eq_error.1 h with houtline | ⟨out, hout, hfill⟩
  · left
    rw [outline, Run.bind_result] at houtline
    rcases bind_eq_error.1 houtline with hblocks | ⟨text, _, hscan⟩
    · exact resolveBlocks_unresolved hpatterns hlist hgiven hblocks
    · simp only [hpatterns, Variable.scan_standard] at hscan
      cases hscan
  · right
    refine ⟨out, hout, ?_⟩
    rw [fill_result, map_eq_error] at hfill
    obtain ⟨v, hv, hmissing, hname⟩ := replacements_unresolved hfill
    rw [outline, Run.bind_result] at hout
    obtain ⟨text, htext, hout⟩ := bind_eq_ok.1 hout
    rw [Run.bind_result] at hout
    obtain ⟨vs, hvs, hout⟩ := bind_eq_ok.1 hout
    cases hout
    obtain ⟨places, hplaces, hinside, rfl⟩ := resolveBlocks_places htext
    obtain ⟨found, _, hfound, _, hlists⟩ := listVariables_lists hlist
    refine ⟨places, found, hplaces, rfl, hfound, v, hv, hname, hmissing, ?_⟩
    rw [hpatterns] at hfound
    rw [Run.ofExcept_result, hpatterns] at hvs
    rcases Variable.found_or_surfaces hinside hvs hv hfound with ⟨w, hw, hsame⟩ | hsurfaces
    · have hsome := hgiven w.name (.inl (hlists.arguments w hw))
      rw [hsame] at hsome
      simp only [isMissing, Bool.and_eq_true, Option.isNone_iff_eq_none] at hmissing
      rw [hmissing.1] at hsome
      cases hsome
    · exact hsurfaces

/-! ## What listing misses -/

/-- The standard options, but strict. -/
def standardStrict : Options := standard.withStrict true

/-- A strict rendering whose blocks have a tree, by the walk over its tags. -/
theorem render_standardStrict {template : String} {nodes : List Node}
    (hbuild : Node.build 256 0 (standardStrict.stripComments template.toList)
      (BlockTag.onePass .standard (standardStrict.stripComments template.toList)) ⟨[], []⟩ =
        .ok nodes) :
    standardStrict.render (.str template) args =
      ((Node.walk args (standardStrict.stripComments template.toList) 0
        (BlockTag.onePass .standard (standardStrict.stripComments template.toList)) [] >>=
          fun text => standardStrict.substitute text args).result.map String.ofList).map .str := by
  have hblocks : standardStrict.resolveBlocks (standardStrict.stripComments template.toList) args =
      _ := Node.process_of_build args (BlockTag.scan_eq_onePass _) hbuild
  rw [render, renderText, renderChars, hblocks]

/-- A dollar sign alone. -/
def bareSigil : String := "<% if $ %>x<% endif %>"

/-- A variable tag with block tags in it. -/
def joined : String := "<% a<% if 1 %>b<% endif %> %>"

/-- A variable tag in the default of another, which a block tag cuts off. -/
def cutOff : String := "<% if $c %><% a='<% endif %><% b %>' %>"

theorem listVariables_joined : standardStrict.listVariables joined = .ok ⟨[], [], []⟩ := by
  rw [listVariables_eq_onePass rfl]
  rfl

theorem givenBy_nil (args : Arguments) : (⟨[], [], []⟩ : Inputs).GivenBy args := by
  rintro name (h | h) <;> cases h

theorem render_joined : standardStrict.render (.str joined) [] = .error (.unresolved "ab") := by
  rw [render_standardStrict rfl]
  rfl

/-- The tag that is joined is found once blocks are resolved. -/
theorem render_unresolved_joined :
    standardStrict.listVariables joined = .ok ⟨[], [], []⟩ ∧
      (⟨[], [], []⟩ : Inputs).GivenBy [] ∧
      standardStrict.render (.str joined) [] = .error (.unresolved "ab") ∧
      (("ab" = "" ∧ standardStrict.AsksEmpty (standardStrict.stripComments joined.toList)) ∨
        ∃ out, (standardStrict.outline joined.toList []).result = .ok out ∧
          standardStrict.MissesSurfaced (standardStrict.stripComments joined.toList) [] out "ab") :=
  ⟨listVariables_joined, givenBy_nil [], render_joined,
    render_unresolved rfl listVariables_joined (givenBy_nil []) render_joined⟩

/-- All that is listed is given, and a variable is missing nevertheless: the
empty name, a tag that is joined, and one that is cut off. -/
theorem listed_not_enough :
    (∃ inputs, standardStrict.listVariables bareSigil = .ok inputs ∧ inputs.GivenBy [] ∧
      standardStrict.render (.str bareSigil) [] = .error (.unresolved "")) ∧
    (∃ inputs, standardStrict.listVariables joined = .ok inputs ∧ inputs.GivenBy [] ∧
      standardStrict.render (.str joined) [] = .error (.unresolved "ab")) ∧
    ∃ inputs, standardStrict.listVariables cutOff = .ok inputs ∧
      inputs.GivenBy [("a", .str "x"), ("c", .bool false)] ∧
      standardStrict.render (.str cutOff) [("a", .str "x"), ("c", .bool false)] =
        .error (.unresolved "b") := by
  refine ⟨⟨⟨[], [], []⟩, ?_, givenBy_nil [], ?_⟩,
    ⟨⟨[], [], []⟩, listVariables_joined, givenBy_nil [], render_joined⟩,
    ⟨["a"], [("a", .str "<% endif %><% b %>")], ["c"]⟩, ?_, ?_, ?_⟩
  · rw [listVariables_eq_onePass rfl]
    rfl
  · rw [render_standardStrict rfl]
    rfl
  · rw [listVariables_eq_onePass rfl]
    rfl
  · intro name hname
    simp only [List.mem_cons, List.not_mem_nil, or_false] at hname
    rcases hname with rfl | rfl <;> rfl
  · rw [render_standardStrict rfl]
    rfl

end Options

end Stencil
