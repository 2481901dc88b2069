import Stencil.Files.Path
import Stencil.Proofs.Text.Parts
import Mathlib.Data.List.Basic

/-!
# Where written paths lead

What a written path means is found name by name, so one that stands behind a
directory may as well be written out behind the directory's own spelling: both
lead to the same place. From the top of all directories no path leads out
again. A path that consists of names alone is found again in what is written
for it, and read behind a base it is put behind the base.
-/

namespace Stencil.Path

open Stencil.Text

/-- A name that something in a directory can have. -/
def IsName (name : String) : Prop :=
  name ≠ "" ∧ name ≠ "." ∧ name ≠ ".." ∧ '/' ∉ name.toList ∧ '\x00' ∉ name.toList

instance (name : String) : Decidable (IsName name) := by
  unfold IsName
  infer_instance

/-- A written path behind the spelling of a directory. What is read from the
top of all directories stands behind none. -/
def behind (directory name : String) : String :=
  if isAbsolute name || directory == "" then name else directory ++ "/" ++ name

variable {p base here : Path}

/-! ## Reading names -/

theorem names_append (front back : String) :
    names (front ++ "/" ++ back) = names front ++ names back := by
  have hchars : (front ++ "/" ++ back).toList = front.toList ++ '/' :: back.toList := by
    simp [String.toList_append]
  rw [names, hchars, splitOn_append, List.map_append, List.filter_append, names, names]

theorem names_name {name : String} (h : IsName name) : names name = [name] := by
  obtain ⟨hempty, hpoint, _, hslash, _⟩ := h
  rw [names, splitOn_whole hslash, List.map_singleton, String.ofList_toList]
  exact List.filter_eq_self.2 (by simp [hempty, hpoint])

theorem head?_append {front : String} (back : String) (h : front ≠ "") :
    (front ++ "/" ++ back).toList.head? = front.toList.head? := by
  have hchars : front.toList ≠ [] := fun hnil => h (String.toList_eq_nil_iff.1 hnil)
  rw [String.append_assoc, String.toList_append, List.head?_append_of_ne_nil _ hchars]

theorem resolve_behind (here : Path) (directory name : String) :
    resolve here (behind directory name) = resolve (resolve here directory) name := by
  rw [behind]
  split
  · next h =>
      rcases Bool.or_eq_true _ _ ▸ h with habsolute | hempty
      · rw [resolve, resolve, start, start, if_pos habsolute, if_pos habsolute]
      · rw [beq_iff_eq.1 hempty]
        rfl
  · next h =>
      rw [Bool.or_eq_true, not_or, beq_iff_eq] at h
      obtain ⟨hrelative, hnonempty⟩ := h
      have hstart : isAbsolute (directory ++ "/" ++ name) = isAbsolute directory := by
        rw [isAbsolute, head?_append name hnonempty, isAbsolute]
      rw [resolve, start, hstart, names_append, List.foldl_append, resolve, start,
        if_neg hrelative, resolve, start]

/-! ## Steps -/

theorem step_top (rest : Path) (name : String) : ∃ rest', step (top :: rest) name = top :: rest' := by
  rw [step]
  split
  · rw [above]
    split
    · exact ⟨rest, rfl⟩
    · next htop =>
        rw [if_neg (by simp [top])]
        have hrest : rest ≠ [] := fun h => htop (by rw [h])
        exact ⟨rest.dropLast, List.dropLast_cons_of_ne_nil hrest⟩
  · exact ⟨rest ++ [name], rfl⟩

/-- Nothing leads out of the top of all directories. -/
theorem foldl_step_top (names : List String) : ∀ rest : Path,
    ∃ rest', names.foldl step (top :: rest) = top :: rest' := by
  induction names with
  | nil => exact fun rest => ⟨rest, rfl⟩
  | cons name names ih =>
      intro rest
      obtain ⟨rest', hstep⟩ := step_top rest name
      rw [List.foldl_cons, hstep]
      exact ih rest'

theorem resolve_top (rest : Path) (path : String) : ∃ rest', resolve (top :: rest) path = top :: rest' := by
  rw [resolve, start]
  split
  · exact foldl_step_top _ _
  · exact foldl_step_top _ _

theorem foldl_step_names (hp : ∀ name ∈ p, IsName name) : ∀ base : Path,
    p.foldl step base = base ++ p := by
  induction p with
  | nil => exact fun base => (List.append_nil base).symm
  | cons name p ih =>
      intro base
      obtain ⟨hname, hrest⟩ := List.forall_mem_cons.1 hp
      rw [List.foldl_cons, step, if_neg hname.2.2.1, ih hrest, List.append_assoc,
        List.singleton_append]

/-! ## Writing names -/

theorem toText_cons (name next : String) (rest : Path) :
    toText (name :: next :: rest) = name ++ "/" ++ toText (next :: rest) := by
  refine String.toList_inj.1 ?_
  simp [toText, String.toList_append, List.intercalate]

theorem names_toText (hp : ∀ name ∈ p, IsName name) : names (toText p) = p := by
  induction p with
  | nil => rfl
  | cons name rest ih =>
      obtain ⟨hname, hrest⟩ := List.forall_mem_cons.1 hp
      cases rest with
      | nil => exact names_name hname
      | cons next rest =>
          rw [toText_cons, names_append, names_name hname, ih hrest, List.singleton_append]

theorem toText_inj {q : Path} (hp : ∀ name ∈ p, IsName name) (hq : ∀ name ∈ q, IsName name)
    (h : toText p = toText q) : p = q := by
  rw [← names_toText hp, h, names_toText hq]

theorem head?_toText (name : String) (rest : Path) (h : name ≠ "") :
    (toText (name :: rest)).toList.head? = name.toList.head? := by
  cases rest with
  | nil => rfl
  | cons next rest => rw [toText_cons, head?_append _ h]

theorem isAbsolute_toText (hp : ∀ name ∈ p, IsName name) : isAbsolute (toText p) = false := by
  cases p with
  | nil => rfl
  | cons name rest =>
      obtain ⟨hempty, _, _, hslash, _⟩ := hp name List.mem_cons_self
      rw [isAbsolute, head?_toText name rest hempty, beq_eq_false_iff_ne]
      exact fun h => hslash (List.mem_of_head? h)

/-- What is written for a path of names leads to it from any base. -/
theorem resolve_toText (base : Path) (hp : ∀ name ∈ p, IsName name) :
    resolve base (toText p) = base ++ p := by
  rw [resolve, names_toText hp, start, isAbsolute_toText hp, if_neg Bool.false_ne_true,
    foldl_step_names hp]

theorem isImpossible_toText (hp : ∀ name ∈ p, IsName name) : isImpossible (toText p) = false := by
  induction p with
  | nil => rfl
  | cons name rest ih =>
      obtain ⟨hname, hrest⟩ := List.forall_mem_cons.1 hp
      have hclean : isImpossible name = false := by
        rw [isImpossible, List.contains_eq_mem, decide_eq_false_iff_not]
        exact hname.2.2.2.2
      cases rest with
      | nil => exact hclean
      | cons next rest =>
          have hnext := ih hrest
          simp only [isImpossible, List.contains_eq_mem, decide_eq_false_iff_not] at hclean hnext ⊢
          rw [toText_cons, String.toList_append, String.toList_append]
          simp only [List.mem_append, not_or]
          exact ⟨⟨hclean, by decide⟩, hnext⟩

/-! ## Below a base -/

theorem isBelow_iff : isBelow p base = true ↔ ∃ rest, rest ≠ [] ∧ p = base ++ rest := by
  rw [isBelow, Bool.and_eq_true, List.isPrefixOf_iff_prefix, decide_eq_true_eq]
  constructor
  · rintro ⟨⟨rest, rfl⟩, hlength⟩
    refine ⟨rest, fun h => ?_, rfl⟩
    rw [h, List.append_nil] at hlength
    exact Nat.lt_irrefl _ hlength
  · rintro ⟨rest, hrest, rfl⟩
    refine ⟨⟨rest, rfl⟩, ?_⟩
    have := List.length_pos_iff.2 hrest
    rw [List.length_append]
    omega

end Stencil.Path
