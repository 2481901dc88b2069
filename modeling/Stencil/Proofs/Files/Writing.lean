import Stencil.Proofs.Files.Tree

/-!
# What writing a file changes

A file is written at the place that its path leads to, and only if every
directory on the way is there. Whatever that place lies below is then a directory
already, so the new entry turns nothing into one, and it is no directory itself,
so it takes none away. What is left is the entry under one place, and looking
another place up does not see it.

None of this asks for a sound tree: where a place is listed twice, the entry that
is found is the entry that is replaced.
-/

namespace Stencil

namespace Path

/-- A place that is directly below another lies below what that one lies below,
and below the other itself. -/
theorem isBelow_concat {p base : Path} {name : String} :
    isBelow (p ++ [name]) base = true ↔ base = p ∨ isBelow p base = true := by
  rw [isBelow_iff, isBelow_iff]
  constructor
  · rintro ⟨rest, hrest, heq⟩
    obtain ⟨front, last, rfl⟩ := (List.eq_nil_or_concat' rest).resolve_left hrest
    rw [← List.append_assoc] at heq
    obtain ⟨rfl, -⟩ := List.append_inj' heq rfl
    cases front with
    | nil => exact .inl (List.append_nil base).symm
    | cons next front => exact .inr ⟨_, List.cons_ne_nil next front, rfl⟩
  · rintro (rfl | ⟨rest, -, rfl⟩)
    · exact ⟨[name], List.cons_ne_nil _ _, rfl⟩
    · exact ⟨rest ++ [name], by simp, List.append_assoc base rest [name]⟩

end Path

namespace FileTree

open Stencil.Text

variable {t t' : FileTree} {here p q : Path} {path : String} {bs : Bytes} {cs : List Char}

/-- The second tree is the first one with the bytes in the file at a place: every
other place has the file that it had, and the directories are the same. -/
structure Rewritten (t : FileTree) (p : Path) (bs : Bytes) (t' : FileTree) : Prop where
  there : t'.file? p = some bs
  elsewhere : ∀ q, q ≠ p → t'.file? q = t.file? q
  directories : ∀ q, t'.isDirectory q = t.isDirectory q

/-! ## Entries -/

section

variable {entries : List (Path × Option Bytes)} {e : Path × Option Bytes}

theorem put_nil (p : Path) (bs : Bytes) : put p bs [] = [(p, some bs)] := rfl

theorem put_cons (p : Path) (bs : Bytes) (e : Path × Option Bytes)
    (entries : List (Path × Option Bytes)) : put p bs (e :: entries) =
      if e.1 = p then (p, some bs) :: entries else e :: put p bs entries := rfl

theorem lookup_put (p q : Path) (bs : Bytes) (entries : List (Path × Option Bytes)) :
    (put p bs entries).lookup q = if q = p then some (some bs) else entries.lookup q := by
  by_cases hq : q = p
  · subst hq
    rw [if_pos rfl]
    induction entries with
    | nil => simp [put_nil]
    | cons e entries ih =>
        rw [put_cons]
        split
        · simp
        · next he => rw [List.lookup_cons, beq_eq_false_iff_ne.2 (Ne.symm he), ih]
  · have hne : (q == p) = false := beq_eq_false_iff_ne.2 hq
    rw [if_neg hq]
    induction entries with
    | nil => simp [put_nil, List.lookup_cons, hne]
    | cons e entries ih =>
        rw [put_cons]
        split
        · next he => rw [List.lookup_cons, List.lookup_cons, he, hne]
        · rw [List.lookup_cons, List.lookup_cons, ih]

theorem mem_put_self (p : Path) (bs : Bytes) (entries : List (Path × Option Bytes)) :
    (p, some bs) ∈ put p bs entries := by
  induction entries with
  | nil => exact List.mem_singleton_self _
  | cons e entries ih =>
      rw [put_cons]
      split
      · exact List.mem_cons_self
      · exact List.mem_cons_of_mem _ ih

/-- An entry is kept unless it stands at the place that is written. -/
theorem mem_put_of_mem (he : e ∈ entries) (hne : e.1 ≠ p) : e ∈ put p bs entries := by
  induction entries with
  | nil => cases he
  | cons e' entries ih =>
      rw [put_cons]
      rcases List.mem_cons.1 he with rfl | he
      · rw [if_neg hne]
        exact List.mem_cons_self
      · split
        · exact List.mem_cons_of_mem _ he
        · exact List.mem_cons_of_mem _ (ih he)

theorem mem_of_mem_put (he : e ∈ put p bs entries) : e = (p, some bs) ∨ e ∈ entries := by
  induction entries with
  | nil => exact .inl (List.mem_singleton.1 he)
  | cons e' entries ih =>
      rw [put_cons] at he
      split at he
      · rcases List.mem_cons.1 he with rfl | he
        · exact .inl rfl
        · exact .inr (List.mem_cons_of_mem _ he)
      · rcases List.mem_cons.1 he with rfl | he
        · exact .inr List.mem_cons_self
        · exact (ih he).imp_right (List.mem_cons_of_mem _)

end

/-! ## Directories -/

/-- An entry is there for a directory: it is one at the place, or it lies below
it. -/
def Shows (q : Path) (e : Path × Option Bytes) : Prop :=
  (e.1 = q ∧ e.2 = none) ∨ e.1.isBelow q = true

theorem isDirectory_iff : t.isDirectory q = true ↔
    (∀ name ∈ q, name = "..") ∨ q = [Path.top] ∨ ∃ e ∈ t.entries, Shows q e := by
  simp only [isDirectory, Shows, Bool.or_eq_true, List.all_eq_true, List.any_eq_true,
    beq_iff_eq, Bool.and_eq_true, Option.isNone_iff_eq_none, or_assoc]

/-- Everything that a place lies below is a directory. -/
def Enclosed (t : FileTree) (p : Path) : Prop :=
  ∀ q, p.isBelow q = true → t.isDirectory q = true

theorem enclosed_start (path : String) : t.Enclosed (Path.start [] path) := by
  intro q hq
  rw [Path.start] at hq
  split at hq
  · rcases Path.isBelow_concat (p := []).1 hq with rfl | hnone
    · rfl
    · cases q <;> cases hnone
  · cases q <;> cases hq

/-- What lies directly below a directory is enclosed as the directory is. -/
theorem Enclosed.below (h : t.Enclosed here) (hhere : t.isDirectory here = true) (name : String) :
    t.Enclosed (here ++ [name]) := by
  intro q hq
  rcases Path.isBelow_concat.1 hq with rfl | hbelow
  · exact hhere
  · exact h q hbelow

theorem Enclosed.step (h : t.Enclosed here) (hhere : t.isDirectory here = true) (name : String) :
    t.Enclosed (here.step name) := by
  rw [Path.step]
  split
  · rw [Path.above]
    split
    · exact h
    · split
      · exact h.below hhere ".."
      · -- What the directory above lies below, this one lies below as well.
        rcases List.eq_nil_or_concat' here with rfl | ⟨above, last, rfl⟩
        · exact h
        · rw [List.dropLast_concat]
          exact fun q hq => h q (Path.isBelow_concat.2 (.inr hq))
  · exact h.below hhere name

theorem Passable.enclosed {names : List String} : ∀ {here : Path}, t.Passable here names →
    t.Enclosed here → t.Enclosed (names.foldl Path.step here) := by
  induction names with
  | nil => exact fun _ h => h
  | cons name names ih =>
      intro here hpass h
      obtain ⟨hhere, hrest⟩ := passable_cons.1 hpass
      exact ih hrest (h.step hhere name)

/-- Where a path leads, everything around is a directory. -/
theorem enclosed_of_walk (h : t.walk path = .ok p) : t.Enclosed p := by
  obtain ⟨hleads, rfl⟩ := walkIn_eq_ok.1 h
  exact hleads.enclosed (enclosed_start path)

/-! ## Writing -/

theorem rewritten_put (henclosed : t.Enclosed p) (hfile : t.isDirectory p = false) (bs : Bytes) :
    t.Rewritten p bs ⟨put p bs t.entries⟩ where
  there := by
    rw [file?, lookup_put, if_pos rfl]
    rfl
  elsewhere q hq := by rw [file?, lookup_put, if_neg hq, file?]
  directories q := by
    have hnone : ∀ e ∈ t.entries, e.1 = p → e.2 ≠ none := by
      intro e he hplace hcontent
      have hdirectory : t.isDirectory p = true :=
        isDirectory_iff.2 (.inr (.inr ⟨e, he, .inl ⟨hplace, hcontent⟩⟩))
      rw [hfile] at hdirectory
      cases hdirectory
    rw [Bool.eq_iff_iff]
    constructor
    · intro h
      rcases isDirectory_iff.1 h with h | h | ⟨e, he, hshows⟩
      · exact isDirectory_iff.2 (.inl h)
      · exact isDirectory_iff.2 (.inr (.inl h))
      · rcases mem_of_mem_put he with rfl | he
        · rcases hshows with ⟨-, hcontent⟩ | hbelow
          · cases hcontent
          · exact henclosed q hbelow
        · exact isDirectory_iff.2 (.inr (.inr ⟨e, he, hshows⟩))
    · intro h
      rcases isDirectory_iff.1 h with h | h | ⟨e, he, hshows⟩
      · exact isDirectory_iff.2 (.inl h)
      · exact isDirectory_iff.2 (.inr (.inl h))
      · refine isDirectory_iff.2 (.inr (.inr ?_))
        by_cases hplace : e.1 = p
        · -- The entry that goes was a file, so it showed what the new one shows.
          refine ⟨_, mem_put_self p bs _, .inr ?_⟩
          rcases hshows with ⟨-, hcontent⟩ | hbelow
          · exact absurd hcontent (hnone e he hplace)
          · rwa [hplace] at hbelow
        · exact ⟨e, mem_put_of_mem he hplace, hshows⟩

/-! ## Reading afterwards -/

/-- The same paths lead to the same places as before. -/
theorem Rewritten.walk_eq_ok (h : t.Rewritten p bs t') :
    t'.walk path = .ok q ↔ t.walk path = .ok q := by
  rw [walk, walk, walkIn_eq_ok, walkIn_eq_ok]
  simp only [Leads, Passable, h.directories]

theorem Rewritten.open?_there (h : t.Rewritten p bs t') (hwalk : t.walk path = .ok p) :
    t'.open? path = some (some bs) := by
  rw [FileTree.open?, h.walk_eq_ok.2 hwalk]
  simp only [h.there]

/-- A path that leads elsewhere or nowhere leads to what it led to before. -/
theorem Rewritten.open?_elsewhere (h : t.Rewritten p bs t') (hwalk : t.walk path ≠ .ok p) :
    t'.open? path = t.open? path := by
  rw [FileTree.open?, FileTree.open?]
  cases hbefore : t.walk path with
  | ok q =>
      have hne : q ≠ p := by
        rintro rfl
        exact hwalk hbefore
      simp only [h.walk_eq_ok.2 hbefore, h.elsewhere q hne, h.directories]
  | error f =>
      cases hafter : t'.walk path with
      | ok q =>
          rw [h.walk_eq_ok.1 hafter] at hbefore
          cases hbefore
      | error f' => rfl

/-- All that differs between two trees is the file that a path leads to, which
has the bytes in the second one. Every path that leads elsewhere finds what it
found before. -/
structure OnlyFile (t : FileTree) (path : String) (bs : Bytes) (t' : FileTree) : Prop where
  bytes : t'.bytesAt? path = some bs
  others : ∀ other, t.walk other ≠ t.walk path → t'.open? other = t.open? other
  place : ∃ p, t.walk path = .ok p ∧ t.Rewritten p bs t'

theorem write_onlyFile (h : t.write path cs = .ok t') : t.OnlyFile path (utf8 cs) t' := by
  rw [write] at h
  split at h
  · cases h
  · obtain ⟨p, hwalk, h⟩ := bind_eq_ok.1 h
    split at h
    · cases h
    · next hfile =>
        cases h
        have hrewritten :=
          rewritten_put (enclosed_of_walk hwalk) (Bool.eq_false_iff.2 hfile) (utf8 cs)
        refine ⟨?_, fun other hother => ?_, p, hwalk, hrewritten⟩
        · rw [bytesAt?, hrewritten.open?_there hwalk]
          rfl
        · rw [hwalk] at hother
          exact hrewritten.open?_elsewhere hother

end FileTree

end Stencil
