import Stencil.Proofs.Value.Faults
import Stencil.Template.Engine

/-!
# What is listed of a template

Listing goes over the variable tags and then over the block tags of a
template, as they stand there with its blocks unresolved. Where it succeeds,
the name of every variable tag is among the arguments, every condition can be
read, and the names in it are among the conditions. It fails if a condition
cannot be read, and before that if a default cannot, which is asked for only
if the name has none yet.
-/

namespace Stencil

/-- The names of the given tags are listed, and the conditions can be read. -/
structure Inputs.Lists (i : Inputs) (vs : List Variable) (tags : List BlockTag) : Prop where
  arguments : ∀ v ∈ vs, v.name ∈ i.arguments
  conditions : ∀ tag ∈ tags, tag.kind = .opening →
    ∃ c, Condition.parse (tag.condition.getD "") = .ok c ∧ ∀ name ∈ c.names, name ∈ i.conditions

/-- The arguments have every name that is listed. -/
def Inputs.GivenBy (i : Inputs) (args : Arguments) : Prop :=
  ∀ name, name ∈ i.arguments ∨ name ∈ i.conditions → (args.find? name).isSome

theorem mem_addName {names : List String} {name other : String} :
    other ∈ addName names name ↔ other ∈ names ∨ other = name := by
  rw [addName]
  split
  · next h =>
      refine ⟨.inl, ?_⟩
      rintro (hmem | rfl)
      · exact hmem
      · exact List.contains_iff_mem.1 h
  · simp

theorem mem_foldl_addName {more : List String} {other : String} : ∀ {names : List String},
    other ∈ more.foldl addName names ↔ other ∈ names ∨ other ∈ more := by
  induction more with
  | nil => intro names; simp
  | cons name more ih =>
      intro names
      rw [List.foldl_cons, ih, mem_addName, List.mem_cons, or_assoc]

namespace Options

variable {o : Options} {i j : Inputs}

theorem addVariable_arguments {v : Variable} (h : addVariable i v = .ok j) :
    j.arguments = addName i.arguments v.name := by
  rw [addVariable] at h
  split at h
  · obtain ⟨value, _, h⟩ := bind_eq_ok.1 h
    cases h
    rfl
  · cases h
    rfl

theorem addTag_arguments {tag : BlockTag} (h : addTag i tag = .ok j) :
    j.arguments = i.arguments := by
  rw [addTag] at h
  split at h
  · obtain ⟨c, _, h⟩ := bind_eq_ok.1 h
    cases h
    rfl
  · cases h
    rfl

theorem addTag_keeps {tag : BlockTag} {name : String} (h : addTag i tag = .ok j)
    (hname : name ∈ i.conditions) : name ∈ j.conditions := by
  rw [addTag] at h
  split at h
  · obtain ⟨c, _, h⟩ := bind_eq_ok.1 h
    cases h
    exact mem_foldl_addName.2 (.inl hname)
  · cases h
    exact hname

theorem addTag_opening {tag : BlockTag} (hkind : tag.kind = .opening) (h : addTag i tag = .ok j) :
    ∃ c, Condition.parse (tag.condition.getD "") = .ok c ∧
      ∀ name ∈ c.names, name ∈ j.conditions := by
  simp only [addTag, hkind] at h
  obtain ⟨c, hc, h⟩ := bind_eq_ok.1 h
  cases h
  exact ⟨c, hc, fun name hname => mem_foldl_addName.2 (.inr hname)⟩

/-- Where listing succeeds, it lists the tags of the template. -/
theorem listVariables_lists {template : String} {inputs : Inputs}
    (h : o.listVariables template = .ok inputs) :
    ∃ vs tags, Variable.scan o.patterns (o.stripComments template.toList) = .ok vs ∧
      BlockTag.scan o.patterns .none (o.stripComments template.toList) = .ok tags ∧
      inputs.Lists vs tags := by
  obtain ⟨vs, hvs, h⟩ := bind_eq_ok.1 h
  obtain ⟨mid, hmid, h⟩ := bind_eq_ok.1 h
  obtain ⟨tags, htags, h⟩ := bind_eq_ok.1 h
  refine ⟨vs, tags, hvs, htags, fun v hv => ?_, fun tag htag hkind => ?_⟩
  · have hlisted : v.name ∈ mid.arguments := by
      refine foldlM_brings (P := fun i => v.name ∈ i.arguments) ?_ ?_ hv hmid
      · intro i w j hj hmem
        rw [addVariable_arguments hj]
        exact mem_addName.2 (.inl hmem)
      · intro i j hj
        rw [addVariable_arguments hj]
        exact mem_addName.2 (.inr rfl)
    refine foldlM_keeps (P := fun i => v.name ∈ i.arguments) ?_ h hlisted
    intro i tag j hj hmem
    rwa [addTag_arguments hj]
  · refine foldlM_brings (P := fun i => ∃ c, Condition.parse (tag.condition.getD "") = .ok c ∧
      ∀ name ∈ c.names, name ∈ i.conditions) ?_ ?_ htag h
    · rintro i other j hj ⟨c, hc, hnames⟩
      exact ⟨c, hc, fun name hname => addTag_keeps hj (hnames name hname)⟩
    · intro i j hj
      exact addTag_opening hkind hj

/-! ## Where listing fails -/

theorem find?_cons {args : Arguments} {n name : String} {value : Value} :
    Arguments.find? ((n, value) :: args) name = none ↔ n ≠ name ∧ args.find? name = none := by
  rw [Arguments.find?, List.lookup_cons]
  by_cases hn : n = name
  · simp [hn]
  · have hbeq : (name == n) = false := beq_eq_false_iff_ne.2 (Ne.symm hn)
    simp only [hbeq, ne_eq, hn, not_false_iff, true_and, Arguments.find?]

end Options

end Stencil
