import Mathlib.Data.List.Forall2
import Stencil.Proofs.Template.OnePass

/-!
# Trimming keeps the tags

Trimming changes where tags begin and end, and the end of a tag decides
whether the next one is kept. With the standard syntax it still keeps the
same tags: what trimming takes in behind a tag is blank, and a tag begins
with a character that is not, so none begins there.
-/

namespace Stencil.BlockTag

open Stencil.Regex Stencil.Text

/-- What a tag is, apart from where it stands. -/
def content (tag : BlockTag) : TagKind × Option String := (tag.kind, tag.condition)

/-! ## What trimming takes in -/

theorem isBlank_of_isIndent {c : Char} (h : isIndent c = true) : isBlank c = true := by
  simp only [isIndent, Bool.or_eq_true, beq_iff_eq] at h
  rcases h with rfl | rfl <;> decide

@[simp] theorem slice_self (cs : List Char) (i : Nat) : slice cs i i = [] := by
  rw [slice, Nat.sub_self, List.take_zero]

/-- A slice is the one up to a place inside it and the one from there on. -/
theorem slice_append (cs : List Char) {i j k : Nat} (hij : i ≤ j) (hjk : j ≤ k) :
    slice cs i j ++ slice cs j k = slice cs i k := by
  obtain ⟨m, rfl⟩ := Nat.exists_eq_add_of_le hij
  obtain ⟨n, rfl⟩ := Nat.exists_eq_add_of_le hjk
  simp only [slice, Nat.add_sub_cancel_left, ← List.drop_drop]
  rw [show i + m + n - i = m + n by omega, List.take_add]

theorem slice_append_drop (cs : List Char) {i j : Nat} (hij : i ≤ j) :
    slice cs i j ++ cs.drop j = cs.drop i := by
  obtain ⟨m, rfl⟩ := Nat.exists_eq_add_of_le hij
  rw [slice, Nat.add_sub_cancel_left, ← List.drop_drop, List.take_append_drop]

theorem mem_slice {cs : List Char} {i j k : Nat} {c : Char} (hij : i ≤ j) (hjk : j < k)
    (hc : cs[j]? = some c) : c ∈ slice cs i k := by
  refine List.mem_iff_getElem?.2 ⟨j - i, ?_⟩
  rw [slice, List.getElem?_take_of_lt (by omega), List.getElem?_drop,
    Nat.add_sub_cancel' hij, hc]

/-- What may end the line behind a tag. -/
def lineEnds : List (List Char) := [[], ['\n'], ['\r', '\n']]

theorem isBlank_of_lineEnd {cs : List Char} (h : cs ∈ lineEnds) : ∀ c ∈ cs, isBlank c = true := by
  simp only [lineEnds, List.mem_cons, List.not_mem_nil, or_false] at h
  have hfeed : isBlank '\n' = true := by decide
  have hreturn : isBlank '\r' = true := by decide
  rcases h with rfl | rfl | rfl <;> simp [hfeed, hreturn]

/-- In front of a tag trimming takes in an indentation. -/
theorem trimmedStart_slice (cs : List Char) (past start : Nat) :
    ∀ c ∈ slice cs (trimmedStart cs past start) start, isIndent c = true := by
  unfold trimmedStart
  dsimp only
  split
  · next h => exact List.all_eq_true.1 h
  · simp

/-- Behind a tag it takes in an indentation and a line end at most. -/
theorem trimmedStop_slice (cs : List Char) (start stop : Nat) :
    ∃ indent lineEnd, slice cs stop (trimmedStop cs start stop) = indent ++ lineEnd ∧
      (∀ c ∈ indent, isIndent c = true) ∧ lineEnd ∈ lineEnds := by
  have hindent : ∀ c ∈ (cs.drop stop).takeWhile isIndent, isIndent c = true :=
    List.all_eq_true.1 List.all_takeWhile
  have hsplit : ∀ n, slice cs stop (stop + ((cs.drop stop).takeWhile isIndent).length + n) =
      (cs.drop stop).takeWhile isIndent ++ ((cs.drop stop).dropWhile isIndent).take n := by
    intro n
    rw [slice, Nat.add_assoc, Nat.add_sub_cancel_left, ← List.take_length_add_append,
      List.takeWhile_append_dropWhile]
  unfold trimmedStop
  split
  · exact ⟨[], [], slice_self cs stop, by simp, by decide⟩
  · dsimp only
    split
    · exact ⟨_, [], by rw [← Nat.add_zero (stop + _), hsplit, List.take_zero], hindent, by decide⟩
    · next heq => exact ⟨_, ['\n'], by rw [hsplit, heq]; rfl, hindent, by decide⟩
    · next heq => exact ⟨_, ['\r', '\n'], by rw [hsplit, heq]; rfl, hindent, by decide⟩
    · exact ⟨[], [], slice_self cs stop, by simp, by decide⟩

/-- The tag `wide` is the tag `plain` that has taken in an indentation in
front of it, and an indentation and a line end at most behind it. -/
structure Widened (cs : List Char) (plain wide : BlockTag) : Prop where
  content : wide.content = plain.content
  start_le : wide.start ≤ plain.start
  front : ∀ c ∈ slice cs wide.start plain.start, isIndent c = true
  le_stop : plain.stop ≤ wide.stop
  back : ∃ indent lineEnd, slice cs plain.stop wide.stop = indent ++ lineEnd ∧
    (∀ c ∈ indent, isIndent c = true) ∧ lineEnd ∈ lineEnds

theorem Widened.front_blank {cs : List Char} {plain wide : BlockTag} (h : Widened cs plain wide) :
    ∀ c ∈ slice cs wide.start plain.start, isBlank c = true :=
  fun c hc => isBlank_of_isIndent (h.front c hc)

theorem Widened.back_blank {cs : List Char} {plain wide : BlockTag} (h : Widened cs plain wide) :
    ∀ c ∈ slice cs plain.stop wide.stop, isBlank c = true := by
  obtain ⟨indent, lineEnd, heq, hindent, hend⟩ := h.back
  intro c hc
  rw [heq] at hc
  rcases List.mem_append.1 hc with hc | hc
  · exact isBlank_of_isIndent (hindent c hc)
  · exact isBlank_of_lineEnd hend c hc

theorem trimmed_widened (trim : Trimming) (cs : List Char) {past : Nat} {tag : BlockTag}
    (hpast : past ≤ tag.start) : Widened cs tag (trimmed trim cs past tag) where
  content := rfl
  start_le := by
    have hle := (trimmedStart_bounds cs hpast).2
    simp only [trimmed]
    split <;> omega
  front := by
    simp only [trimmed]
    split
    · exact trimmedStart_slice cs past tag.start
    · simp
  le_stop := by
    have hle := le_trimmedStop cs tag.start tag.stop
    simp only [trimmed]
    split <;> omega
  back := by
    simp only [trimmed]
    split
    · exact trimmedStop_slice cs tag.start tag.stop
    · exact ⟨[], [], slice_self cs tag.stop, by simp, by decide⟩

/-! ## Where tags begin -/

/-- Every find is a tag at some place of the text. -/
theorem found_place {cs : List Char} {tags : List BlockTag} {tag : BlockTag}
    (h : found .standard cs = .ok tags) (hmem : tag ∈ tags) :
    ∃ kind n, tagHere? .standard kind ((Place.ofText cs).skip n) = some tag := by
  have hperm := weave_perm (tagAt? .standard) (fun _ => 0) (p := Place.ofText cs) rfl
  rw [found_standard] at h
  cases h
  have hmem := hperm.symm.subset hmem
  simp only [ofKind_tagAt?, List.mem_append] at hmem
  rcases hmem with hmem | hmem | hmem
  · exact ⟨.opening, mem_sweep rfl hmem⟩
  · exact ⟨.otherwise, mem_sweep rfl hmem⟩
  · exact ⟨.closing, mem_sweep rfl hmem⟩

theorem found_head {cs : List Char} {tags : List BlockTag} {tag : BlockTag}
    (h : found .standard cs = .ok tags) (hmem : tag ∈ tags) : cs[tag.start]? = some '<' := by
  obtain ⟨kind, n, hfind⟩ := found_place h hmem
  obtain ⟨_, hstart, _, _, _, hshape⟩ := tagHere?_shape hfind
  have hhead := hshape.head
  rw [Place.skip_rest, List.head?_drop] at hhead
  rw [hstart, Place.skip_pos]
  show cs[0 + n]? = _
  rw [Nat.zero_add]
  exact hhead

/-! ## The same tags -/

/-- No tag begins in the blanks that were taken in behind the one before it. -/
theorem not_lt_of_gap {cs : List Char} {past wide start : Nat} (hpast : past ≤ start)
    (hgap : ∀ c ∈ slice cs past wide, isBlank c = true) (hhead : cs[start]? = some '<') :
    ¬ start < wide := by
  intro hlt
  exact absurd (hgap '<' (mem_slice hpast hlt hhead)) (by decide)

/-- The two scans keep the same tags, where the one that trims is past the
other by nothing that a tag could begin with. -/
theorem separate_widened (trim : Trimming) {cs : List Char} : ∀ {tags : List BlockTag}
    {past wide : Nat}, (∀ tag ∈ tags, cs[tag.start]? = some '<') → past ≤ wide →
    (∀ c ∈ slice cs past wide, isBlank c = true) →
    List.Forall₂ (Widened cs) (separate .none cs past tags) (separate trim cs wide tags) := by
  intro tags
  induction tags with
  | nil => intro past wide _ _ _; exact .nil
  | cons tag tags ih =>
      intro past wide hheads hle hgap
      have hrest : ∀ t ∈ tags, cs[t.start]? = some '<' :=
        fun t ht => hheads t (List.mem_cons_of_mem tag ht)
      rw [separate, separate]
      by_cases hpast : tag.start < past
      · rw [if_pos hpast, if_pos (by omega)]
        exact ih hrest hle hgap
      · have hwide := not_lt_of_gap (Nat.le_of_not_lt hpast) hgap (hheads tag List.mem_cons_self)
        rw [if_neg hpast, if_neg hwide]
        have hwidened := trimmed_widened trim cs (Nat.le_of_not_lt hwide)
        exact .cons hwidened (ih hrest hwidened.le_stop hwidened.back_blank)

/-- Trimming finds the tags that are found without it, each widened. -/
theorem scan_widened (trim : Trimming) (cs : List Char) {tags : List BlockTag}
    (h : scan .standard trim cs = .ok tags) :
    ∃ plain, scan .standard .none cs = .ok plain ∧ List.Forall₂ (Widened cs) plain tags := by
  obtain ⟨finds, hfinds, rfl⟩ := map_eq_ok.1 h
  refine ⟨separate .none cs 0 finds, ?_, ?_⟩
  · rw [scan, hfinds]
    rfl
  · exact separate_widened trim (fun tag hmem => found_head hfinds hmem) (Nat.le_refl 0) (by simp)

theorem contents_eq {cs : List Char} {plain tags : List BlockTag}
    (h : List.Forall₂ (Widened cs) plain tags) : tags.map content = plain.map content := by
  induction h with
  | nil => rfl
  | cons hwidened _ ih => rw [List.map_cons, List.map_cons, hwidened.content, ih]

theorem scan_content (trim : Trimming) (cs : List Char) {tags : List BlockTag}
    (h : scan .standard trim cs = .ok tags) :
    ∃ plain, scan .standard .none cs = .ok plain ∧ tags.map content = plain.map content := by
  obtain ⟨plain, hplain, hwidened⟩ := scan_widened trim cs h
  exact ⟨plain, hplain, contents_eq hwidened⟩

end Stencil.BlockTag
