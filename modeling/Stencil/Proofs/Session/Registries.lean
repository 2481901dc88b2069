import Mathlib.Logic.Function.Basic
import Stencil.Proofs.Entries
import Stencil.Proofs.Text.Rising
import Stencil.Session

/-!
# What a registry shows

A registry is used through what it finds under a name. Registering and
unregistering change that at one name; the names, their number and all
questions about one name tell the same, as long as no name comes twice, which no
operation brings about. Rendering sees nothing else of a registry.
-/

namespace Stencil

/-! ## Bindings -/

namespace Session

variable {α : Type} {name : String} {a : α} {entries : List (String × α)}

@[simp] theorem lookup_bound (name other : String) (a : α) (entries : List (String × α)) :
    (bound name a entries).lookup other = if other = name then some a else entries.lookup other := by
  induction entries with
  | nil =>
      rw [bound, List.lookup_cons]
      split <;> simp_all
  | cons e entries ih =>
      obtain ⟨n, b⟩ := e
      rw [bound]
      by_cases hn : n = name
      · rw [if_pos hn, List.lookup_cons, List.lookup_cons]
        subst hn
        by_cases h : other = n
        · simp [h]
        · simp [h, beq_eq_false_iff_ne.2 h]
      · rw [if_neg hn, List.lookup_cons, List.lookup_cons, ih]
        by_cases h : other = n
        · subst h
          simp [hn]
        · simp [beq_eq_false_iff_ne.2 h]

theorem lookup_bound_or (name other : String) (a : α) (entries : List (String × α)) :
    (bound name a entries).lookup other =
      ([(name, a)].lookup other).or (entries.lookup other) := by
  rw [lookup_bound, List.lookup_cons]
  by_cases h : other = name
  · simp [h]
  · simp [h, beq_eq_false_iff_ne.2 h]

theorem keys_bound (name : String) (a : α) (entries : List (String × α)) :
    (bound name a entries).map (·.1) =
      if name ∈ entries.map (·.1) then entries.map (·.1) else entries.map (·.1) ++ [name] := by
  induction entries with
  | nil => rfl
  | cons e entries ih =>
      obtain ⟨n, b⟩ := e
      rw [bound]
      by_cases hn : n = name
      · simp [hn]
      · rw [if_neg hn, List.map_cons, ih, List.map_cons]
        by_cases h : name ∈ entries.map (·.1)
        · rw [if_pos h, if_pos (List.mem_cons_of_mem _ h)]
        · rw [if_neg h, if_neg (by simp only [List.mem_cons, not_or]; exact ⟨Ne.symm hn, h⟩),
            List.cons_append]

theorem nodup_bound (h : (entries.map (·.1)).Nodup) :
    ((bound name a entries).map (·.1)).Nodup := by
  rw [keys_bound]
  split
  · exact h
  · next hname =>
      refine List.nodup_append.2 ⟨h, List.nodup_singleton _, ?_⟩
      rintro x hx y hy rfl
      exact hname (List.mem_singleton.1 hy ▸ hx)

end Session

/-! ## Registries -/

namespace Registry

variable {r r' : Registry} {name : String} {f : Filter}

theorem put_eq_bound (name : String) (f : Filter) (entries : List (String × Filter)) :
    put name f entries = Session.bound name f entries := by
  induction entries with
  | nil => rfl
  | cons e entries ih => rw [put, Session.bound, ih]

theorem find?_register : (r.register name f).find? = Function.update r.find? name (some f) := by
  funext other
  rw [find?, register, put_eq_bound, Session.lookup_bound, Function.update_apply]
  rfl

theorem find?_unregister : (r.unregister name).find? = Function.update r.find? name none := by
  funext other
  rw [find?, unregister, Function.update_apply, find?]
  induction r.entries with
  | nil => simp
  | cons e entries ih =>
      obtain ⟨n, g⟩ := e
      rw [List.filter_cons, List.lookup_cons]
      by_cases hn : n = name
      · subst hn
        rw [if_neg (by simp), ih]
        by_cases h : other = n
        · simp [h]
        · simp [h, beq_eq_false_iff_ne.2 h]
      · rw [if_pos (by simpa using hn), List.lookup_cons, ih]
        by_cases h : other = n
        · subst h
          simp [hn]
        · simp [beq_eq_false_iff_ne.2 h]

/-- No name comes twice. -/
def Distinct (r : Registry) : Prop := (r.entries.map (·.1)).Nodup

theorem distinct_empty : empty.Distinct := List.nodup_nil

theorem distinct_standard : standard.Distinct := by
  have hnames : standard.entries.map (·.1) = Standard.actions.map (·.1) := by
    rw [standard, List.map_map]
    rfl
  rw [Distinct, hnames]
  decide

theorem Distinct.register (h : r.Distinct) : (r.register name f).Distinct := by
  rw [Distinct, Registry.register, put_eq_bound]
  exact Session.nodup_bound h

theorem Distinct.unregister (h : r.Distinct) : (r.unregister name).Distinct :=
  List.Nodup.sublist (List.filter_sublist.map _) h

/-- The standard registry shows the catalog. -/
theorem find?_standard : standard.find? = Standard.filter? := by
  funext name
  rw [find?, standard, Standard.filter?]
  induction Standard.actions with
  | nil => rfl
  | cons e actions ih =>
      rw [List.map_cons, List.lookup_cons, List.lookup_cons, ih]
      by_cases h : name = e.1
      · simp [h]
      · simp [beq_eq_false_iff_ne.2 h]

theorem mem_names : name ∈ r.names ↔ (r.find? name).isSome = true := by
  rw [names, List.mem_mergeSort, find?, lookup_isSome]

theorem names_rising (h : r.Distinct) : r.names.Pairwise (· < ·) := Text.mergeSort_rising h

theorem size_eq_names : r.size = r.names.length := by
  rw [size, names, List.length_mergeSort, List.length_map]

/-- Two registries that show the same filters apply the same. -/
theorem apply_congr (h : r.find? = r'.find?) : r.apply = r'.apply := by
  funext name v args
  rw [apply, apply, get, get, h]

end Registry

/-! ## Rendering -/

namespace Options

variable {o : Options} {r r' : Registry}

theorem valueOf_congr (h : r.find? = r'.find?) (v : Variable) (args : Arguments) :
    { o with filters := r }.valueOf v args = { o with filters := r' }.valueOf v args := by
  rw [valueOf, valueOf, Registry.apply_congr h]
  rfl

theorem replacements_congr (h : r.find? = r'.find?) (args : Arguments) (vs : List Variable) :
    { o with filters := r }.replacements args vs =
      { o with filters := r' }.replacements args vs := by
  induction vs with
  | nil => rfl
  | cons v vs ih => rw [replacements, replacements, valueOf_congr h, ih]

/-- Rendering sees of a registry what it finds. -/
theorem render_congr (h : r.find? = r'.find?) (template : Value) (args : Arguments) :
    { o with filters := r }.render template args =
      { o with filters := r' }.render template args := by
  have hchars : ∀ cs, { o with filters := r }.renderChars cs args =
      { o with filters := r' }.renderChars cs args := by
    intro cs
    simp only [renderChars, substitute, replacements_congr h]
    rfl
  cases template <;> simp only [render, renderText, hchars]

end Options

end Stencil
