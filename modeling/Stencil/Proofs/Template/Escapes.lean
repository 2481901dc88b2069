import Stencil.Proofs.Filters.Leaks
import Stencil.Proofs.Template.Introspection

/-!
# What else than a mistake of the template stops a rendering

Every failure of a rendering ought to be a mistake of the template, and those
of filters are turned into one. Some get past that. A whole number can be too
long to be read or written, in a condition, in a default, in an argument of a
filter or in a value; a standard filter can fail with something that the
registry does not take for a refusal (`Leaks`); and a YAML document can hold a
value that has no written form. `Stops` says where each of these comes from: a
condition of an opening tag, or the first variable tag of the outline that has
no text, of which `Escapes` lists the ways. For standard tags and filters and
for arguments that are JSON data, `render_outcome` says that these stop a
rendering, and that nothing else does but a mistake of the template. Listing
what a template asks for has only one such way, a default.
-/

namespace Stencil

open Stencil.Value

variable {args : Arguments}

/-! ## Conditions -/

/-- A mistake of the template, or a number that is too long. -/
def TemplateOrLong (f : Failure) : Prop := f.isTemplateError = true ∨ f = .badValue

theorem Value.commonGround_refused {a b : Value} (ha : a.isStructured = false)
    (hb : b.isStructured = false) : FailsOnly (· = .badValue) (commonGround a b) := by
  refine .ite (.ok _) ?_
  refine (asNumber_refused a).bind fun m _ => (asNumber_refused b).bind fun n _ => ?_
  split
  · exact .ok _
  · exact (render_refused ha).bind fun s _ => (render_refused hb).bind fun t _ => .ok _

theorem Comparison.holds_refused (op : Comparison) {a b : Value} (ha : a.isStructured = false)
    (hb : b.isStructured = false) : FailsOnly (· = .badValue) (op.holds a b) := by
  have hequals : FailsOnly (· = .badValue) (a.looseEquals b) := (commonGround_refused ha hb).map _
  have hcompare : FailsOnly (· = .badValue) (a.looseCompare b) := (commonGround_refused ha hb).map _
  cases op with
  | equal => exact hequals
  | different => exact hequals.map _
  | identical | distinct => exact .ok _
  | less | atMost | greater | atLeast => exact hcompare.map _

namespace Condition

theorem plainOperand_outcome (raw : List Char) (args : Arguments) :
    Yields TemplateOrLong (fun v => v.isStructured = false) (plainOperand raw args) := by
  have hshape : ∀ v : Value, Yields TemplateOrLong (fun v => v.isStructured = false)
      (if v.isStructured then .error (.structuredOperand (String.ofList raw) v.shape)
        else .ok v : Except Failure Value) := by
    intro v
    split
    · exact .inl rfl
    · next h => exact Bool.eq_false_iff.2 h
  unfold plainOperand
  split
  · dsimp only
    split
    · exact hshape _
    · exact .inl rfl
  · exact .after ((Literal.read_json raw).failsOnly.imp fun _ => .inr) fun v _ => hshape v

theorem operand_outcome (raw : String) (args : Arguments) :
    Yields TemplateOrLong (fun v => v.isStructured = false) (operand raw args) := by
  unfold operand
  split
  · exact (plainOperand_outcome _ _).map fun _ _ => rfl
  · exact plainOperand_outcome _ _

theorem holds_fails (c : Condition) (args : Arguments) :
    FailsOnly TemplateOrLong (c.holds args) := by
  refine Yields.failsOnly (Q := fun _ => True) ?_
  refine (operand_outcome c.left args).bind fun left hleft => ?_
  have hleft' : (if c.negated then .bool (!left.isTruthy) else left).isStructured = false := by
    split
    · rfl
    · exact hleft
  dsimp only
  split
  · trivial
  · split
    · exact .inl rfl
    · next op _ =>
        refine (operand_outcome _ args).bind fun right hright => ?_
        exact ((op.holds_refused hleft' hright).imp fun _ => .inr).yields fun _ _ => trivial

end Condition

/-! ## Resolving blocks -/

namespace Node

/-- Some opening tag has a condition that meets a number that is too long. -/
def MeetsLong (args : Arguments) (tags : List BlockTag) : Prop :=
  ∃ tag ∈ tags, tag.kind = .opening ∧ ∃ c, Condition.parse (tag.condition.getD "") = .ok c ∧
    c.holds args = .error .badValue

theorem isTemplateError_structural {f : Failure} (h : f.kind = .structural) :
    f.isTemplateError = true := by
  rw [Failure.isTemplateError, h]

/-- Resolving blocks fails with a mistake of the template, or because of such
a condition. -/
theorem process_fails {s : Settings} {cs : List Char} {tags : List BlockTag}
    (htags : BlockTag.scan s.patterns s.trimming cs = .ok tags) :
    FailsOnly (fun f => f.isTemplateError = true ∨ f = .badValue ∧ MeetsLong args tags)
      (process s cs args).result := by
  cases hbuild : build s.maxDepth 0 cs tags ⟨[], []⟩ with
  | error f =>
      have hparse : parse s cs = .error f := by rw [parse, htags, ok_bind, hbuild]
      rw [process, hparse]
      exact .error (.inl (isTemplateError_structural (build_fails s.maxDepth _ hbuild)))
  | ok nodes =>
      intro f hf
      rw [process_of_build args htags hbuild] at hf
      obtain ⟨tag, hmem, hkind, hparse | ⟨c, hc, hholds⟩⟩ := walk_fails hf
      · exact .inl (isTemplateError_structural (Condition.parse_fails _ _ hparse))
      · rcases Condition.holds_fails c args f hholds with htemplate | rfl
        · exact .inl htemplate
        · exact .inr ⟨rfl, tag, hmem, hkind, c, hc, hholds⟩

end Node

/-! ## Variable tags -/

namespace Options

variable {o : Options} {v : Variable} {vs : List Variable}

/-- How a failure that is no mistake of the template comes from a variable
tag: from its default, from an argument of its filter, from the filter, or
from writing its value. -/
inductive Escapes (o : Options) (args : Arguments) (v : Variable) : Failure → Prop
  | default : args.find? v.name = none → v.LongDefault → Escapes o args v .badValue
  | arguments {name : String} {value : Value} : v.filterName = some name → name.isEmpty = false →
      (o.plainValue v args).result = .ok value → v.LongArgument → Escapes o args v .badValue
  | filter {name : String} {value : Value} {more : List Value} {f : Failure} :
      v.filterName = some name → name.isEmpty = false →
      (o.plainValue v args).result = .ok value → v.arguments = .ok more →
      o.filters.apply name value more = .error f → Leaks value more name f → Escapes o args v f
  | tooLong {value : Value} : (o.valueOf v args).result = .ok value →
      value.renderChars = .error .badValue → Escapes o args v .badValue
  | unwritable {value : Value} : v.filterName = some "decode" → v.arguments = .ok [.str "yaml"] →
      (o.valueOf v args).result = .ok value → value.renderChars = .error .wrongType →
      Escapes o args v .wrongType

/-- Every argument is JSON data. -/
def AllJson (args : Arguments) : Prop := ∀ e ∈ args, e.2.IsJson

theorem find?_json {name : String} {value : Value} (hargs : AllJson args)
    (h : args.find? name = some value) : value.IsJson := by
  obtain ⟨front, back, rfl, _⟩ := List.lookup_eq_some_iff.1 h
  exact hargs (name, value) (by simp)

theorem plainValue_outcome (hargs : AllJson args) (v : Variable) :
    Yields (fun f => f.isTemplateError = true ∨ o.Escapes args v f) IsJson
      (o.plainValue v args).result := by
  unfold plainValue
  split
  · next value hfind => exact find?_json hargs hfind
  · next hfind =>
      split
      · simp only [Run.bind_result, Run.ofExcept_result, Run.note_result, ok_bind, Run.pure_result]
        cases hdefault : v.defaultValue with
        | error f =>
            obtain ⟨rfl, hlong⟩ := Variable.defaultValue_error.1 hdefault
            exact .inr (.default hfind hlong)
        | ok value => exact v.defaultValue_json.of_eq_ok hdefault
      · split
        · exact .inl rfl
        · exact .null

theorem valueOf_outcome (hfilters : o.filters.IsStandard) (hargs : AllJson args) (v : Variable) :
    Yields (fun f => f.isTemplateError = true ∨ o.Escapes args v f)
      (fun w => w.IsJson ∨ v.filterName = some "decode" ∧ v.arguments = .ok [.str "yaml"])
      (o.valueOf v args).result := by
  unfold valueOf
  rw [Run.bind_result]
  have hplain := plainValue_outcome (o := o) hargs v
  cases hvalue : (o.plainValue v args).result with
  | error f => exact hplain.failsOnly f hvalue
  | ok value =>
      have hjson := hplain.of_eq_ok hvalue
      rw [ok_bind]
      split
      · exact .inl hjson
      · next name hname =>
          split
          · exact .inl hjson
          · next hempty =>
              have hempty : name.isEmpty = false := Bool.eq_false_iff.2 hempty
              simp only [Run.bind_result, Run.ofExcept_result, Run.note_result, ok_bind]
              cases hmore : v.arguments with
              | error f =>
                  obtain ⟨rfl, hlong⟩ := Variable.arguments_error.1 hmore
                  exact .inr (.arguments hname hempty hvalue hlong)
              | ok more =>
                  have happly := Registry.apply_standard hfilters name hjson
                    (v.arguments_json.of_eq_ok hmore)
                  rw [ok_bind]
                  cases hresult : o.filters.apply name value more with
                  | error f =>
                      refine (happly.failsOnly f hresult).imp id fun hleak => ?_
                      exact .filter hname hempty hvalue hmore hresult hleak
                  | ok w =>
                      refine (happly.of_eq_ok hresult).imp id fun hyaml => ?_
                      rw [hname, hyaml.1, hyaml.2]
                      exact ⟨rfl, rfl⟩

/-- The text that replaces a variable tag. -/
def tagText (o : Options) (args : Arguments) (v : Variable) : Except Failure (List Char) :=
  (o.valueOf v args).result >>= Value.renderChars

theorem tagText_fails (hfilters : o.filters.IsStandard) (hargs : AllJson args) (v : Variable) :
    FailsOnly (fun f => f.isTemplateError = true ∨ o.Escapes args v f) (o.tagText args v) := by
  have hvalueOf := valueOf_outcome hfilters hargs v
  refine hvalueOf.failsOnly.bind fun w hw => ?_
  intro f hf
  -- Only what was read as YAML can hold a key that has no written form.
  rcases hvalueOf.of_eq_ok hw with hjson | ⟨hname, hmore⟩
  · have hlong : f = .badValue := renderChars_refused hjson f hf
    subst hlong
    exact .inr (.tooLong hw hf)
  · rcases renderChars_fails w f hf with rfl | rfl
    · exact .inr (.tooLong hw hf)
    · exact .inr (.unwritable hname hmore hw hf)

theorem Escapes.not_template {f : Failure} (h : o.Escapes args v f) : f.isTemplateError = false := by
  cases h with
  | default _ _ | arguments _ _ _ _ | tooLong _ _ | unwritable _ _ _ _ => rfl
  | filter _ _ _ _ _ hleak => exact hleak.not_template

/-- Every escape does stop a rendering that comes to its tag. -/
theorem Escapes.tagText_eq {f : Failure} (h : o.Escapes args v f) :
    o.tagText args v = .error f := by
  unfold tagText
  cases h with
  | default hfind hlong =>
      have hdefault := Variable.defaultValue_error.2 ⟨rfl, hlong⟩
      rw [valueOf, Run.bind_result, plainValue, hfind]
      simp only [Variable.hasDefault_of_error hdefault, if_true, Run.bind_result,
        Run.ofExcept_result, hdefault, error_bind]
  | @arguments name value hname hempty hvalue hlong =>
      have hmore := Variable.arguments_error.2 ⟨rfl, hlong⟩
      rw [valueOf, Run.bind_result, hvalue, ok_bind, hname]
      simp [hempty, hmore]
  | @filter name value more _ hname hempty hvalue hmore hresult _ =>
      rw [valueOf, Run.bind_result, hvalue, ok_bind, hname]
      simp [hempty, hmore, hresult]
  | tooLong hvalue hchars | unwritable _ _ hvalue hchars => rw [hvalue, ok_bind, hchars]

/-- With standard filters and JSON data, the escapes of a tag are the failures
of its text that are no mistakes of the template. -/
theorem escapes_iff (hfilters : o.filters.IsStandard) (hargs : AllJson args) (v : Variable)
    (f : Failure) :
    o.Escapes args v f ↔ o.tagText args v = .error f ∧ f.isTemplateError = false := by
  refine ⟨fun h => ⟨h.tagText_eq, h.not_template⟩, ?_⟩
  rintro ⟨hf, hnot⟩
  rcases tagText_fails hfilters hargs v f hf with h | h
  · rw [hnot] at h
    cases h
  · exact h

theorem replacements_result (vs : List Variable) :
    (o.replacements args vs).result = vs.mapM (o.tagText args) := by
  induction vs with
  | nil => rfl
  | cons v vs ih =>
      rw [List.mapM_cons, ← ih]
      simp only [replacements_cons, Run.bind_result, Run.ofExcept_result, Run.pure_result, tagText,
        bind_assoc]
      rfl

/-! ## Rendering -/

theorem tags_ok (hpatterns : o.patterns = .standard) (trimming : Trimming) (cs : List Char) :
    ∃ tags, BlockTag.scan o.patterns trimming cs = .ok tags := by
  rw [hpatterns, BlockTag.scan, BlockTag.found_standard]
  exact ⟨_, rfl⟩

theorem outline_fails (hpatterns : o.patterns = .standard) (template : List Char) :
    FailsOnly (fun f => f.isTemplateError = true ∨ f = .badValue ∧ ∃ tags,
      BlockTag.scan o.patterns o.trimming (o.stripComments template) = .ok tags ∧
        Node.MeetsLong args tags) (o.outline template args).result := by
  obtain ⟨tags, htags⟩ := tags_ok hpatterns o.trimming (o.stripComments template)
  rw [outline, Run.bind_result]
  refine ((Node.process_fails htags).imp fun f hf => ?_).bind fun text _ => ?_
  · exact hf.imp id fun h => ⟨h.1, tags, htags, h.2⟩
  · rw [Run.bind_result, Run.ofExcept_result, hpatterns, Variable.scan_standard]
    exact .ok _

/-- What stops the rendering of a template, other than a mistake of it: a
number that is too long for a condition, so that there is no outline, or the
first variable tag of the outline that has no text. -/
inductive Stops (o : Options) (args : Arguments) (template : List Char) : Failure → Prop
  | condition {tags : List BlockTag} : (o.outline template args).result = .error .badValue →
      BlockTag.scan o.patterns o.trimming (o.stripComments template) = .ok tags →
      Node.MeetsLong args tags → Stops o args template .badValue
  | tag {out : Outline} {front back : List Variable} {v : Variable} {f : Failure} :
      (o.outline template args).result = .ok out → out.tags = front ++ v :: back →
      (∀ w ∈ front, ∃ cs, o.tagText args w = .ok cs) → o.Escapes args v f →
      Stops o args template f

theorem render_error (template : String) (f : Failure) :
    o.render (.str template) args = .error f ↔
      (o.outline template.toList args).result = .error f ∨
      ∃ out, (o.outline template.toList args).result = .ok out ∧
        ∃ front v back, out.tags = front ++ v :: back ∧
          (∀ w ∈ front, ∃ cs, o.tagText args w = .ok cs) ∧ o.tagText args v = .error f := by
  rw [render_result, map_eq_error, Run.bind_result, bind_eq_error]
  simp only [fill_result, map_eq_error, replacements_result, mapM_eq_error]

theorem Stops.not_template {template : List Char} {f : Failure} (h : o.Stops args template f) :
    f.isTemplateError = false := by
  cases h with
  | condition _ _ _ => rfl
  | tag _ _ _ hescape => exact hescape.not_template

theorem render_fails (hpatterns : o.patterns = .standard) (hfilters : o.filters.IsStandard)
    (hargs : AllJson args) (template : String) :
    FailsOnly (fun f => f.isTemplateError = true ∨ o.Stops args template.toList f)
      (o.render (.str template) args) := by
  intro f hf
  rcases (render_error template f).1 hf with houtline | ⟨out, hout, front, v, back, hsplit, hfront,
    htext⟩
  · rcases outline_fails hpatterns _ f houtline with h | ⟨rfl, tags, htags, h⟩
    · exact .inl h
    · exact .inr (.condition houtline htags h)
  · exact (tagText_fails hfilters hargs v f htext).imp id (.tag hout hsplit hfront)

/-! ## Listing -/

/-- The standard options without the filters that do not always give the same. -/
def steady : Options :=
  { standard with filters := (Registry.standard.unregister "random").unregister "shuffle" }

end Options

end Stencil
