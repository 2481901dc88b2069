import Stencil.Proofs.Chaining
import Stencil.Proofs.Regex.Reach
import Stencil.Template.Tag

/-!
# Tags stand in order

Whatever the tag syntax and the trimming, the tags of a text stand from left
to right, none overlaps the one before it and none sticks out of the text.
Three things add up to that: a match lies inside the text, a tag that begins
inside the one before it is dropped, and trimming never moves a start in
front of the last stop nor a stop behind the end of the text. That the finds
were sorted is not needed.
-/

namespace Stencil.BlockTag

open Stencil.Regex

/-- The tags stand one behind the other from `lo` on, and end by `hi`. -/
def Spans (hi : Nat) : (lo : Nat) → List BlockTag → Prop
  | lo, [] => lo ≤ hi
  | lo, tag :: tags => lo ≤ tag.start ∧ tag.start ≤ tag.stop ∧ Spans hi tag.stop tags

theorem Spans.le {hi : Nat} : ∀ {lo : Nat} {tags : List BlockTag}, Spans hi lo tags → lo ≤ hi
  | _, [], h => h
  | _, _ :: _, ⟨hstart, hstop, h⟩ => by have := Spans.le h; omega

/-! ## Finds lie inside the text -/

/-- A find that lies inside a text of the given length. -/
def Inside (length : Nat) (tag : BlockTag) : Prop := tag.start ≤ tag.stop ∧ tag.stop ≤ length

theorem mem_openings {p : Patterns} {cs : List Char} {tags : List BlockTag} {tag : BlockTag}
    (h : openings p cs = .ok tags) (hmem : tag ∈ tags) : Inside cs.length tag := by
  obtain ⟨m, hm, htag⟩ := mem_of_mapM_eq_ok h hmem
  obtain ⟨condition, _, htag⟩ := bind_eq_ok.1 htag
  cases htag
  exact mem_allMatches hm

theorem mem_words {kind : TagKind} {r : Regex} {cs : List Char} {tag : BlockTag}
    (hmem : tag ∈ words kind r cs) : Inside cs.length tag := by
  obtain ⟨m, hm, rfl⟩ := List.mem_map.1 hmem
  exact mem_allMatches hm

theorem mem_found {p : Patterns} {cs : List Char} {tags : List BlockTag} {tag : BlockTag}
    (h : found p cs = .ok tags) (hmem : tag ∈ tags) : Inside cs.length tag := by
  obtain ⟨opening, hopening, h⟩ := bind_eq_ok.1 h
  cases h
  rcases List.mem_append.1 (List.mem_mergeSort.1 hmem) with hmem | hmem
  · exact mem_openings hopening hmem
  · rcases List.mem_append.1 hmem with hmem | hmem <;> exact mem_words hmem

/-! ## Trimming keeps the order -/

theorem trimmedStart_bounds (cs : List Char) {past start : Nat} (h : past ≤ start) :
    past ≤ trimmedStart cs past start ∧ trimmedStart cs past start ≤ start := by
  unfold trimmedStart
  simp only []
  split <;> omega

theorem le_trimmedStop (cs : List Char) (start stop : Nat) : stop ≤ trimmedStop cs start stop := by
  unfold trimmedStop
  split
  · omega
  · dsimp only
    split <;> omega

theorem trimmedStop_le {cs : List Char} (start : Nat) {stop : Nat} (h : stop ≤ cs.length) :
    trimmedStop cs start stop ≤ cs.length := by
  have hlen : ((cs.drop stop).takeWhile isIndent).length +
      ((cs.drop stop).dropWhile isIndent).length = cs.length - stop := by
    rw [← List.length_append, List.takeWhile_append_dropWhile, List.length_drop]
  unfold trimmedStop
  split
  · omega
  · dsimp only
    split
    · next heq => simp only [heq, List.length_nil] at hlen; omega
    · next heq => simp only [heq, List.length_cons] at hlen; omega
    · next heq => simp only [heq, List.length_cons] at hlen; omega
    · omega

theorem trimmed_bounds (trim : Trimming) {cs : List Char} {past : Nat} {tag : BlockTag}
    (hpast : past ≤ tag.start) (htag : Inside cs.length tag) :
    past ≤ (trimmed trim cs past tag).start ∧
      (trimmed trim cs past tag).start ≤ (trimmed trim cs past tag).stop ∧
      (trimmed trim cs past tag).stop ≤ cs.length := by
  obtain ⟨hspan, hin⟩ := htag
  have hstart := trimmedStart_bounds cs hpast
  have hle := le_trimmedStop cs tag.start tag.stop
  have hstop := trimmedStop_le tag.start hin
  simp only [trimmed]
  split <;> split <;> omega

theorem separate_spans {trim : Trimming} {cs : List Char} : ∀ {tags : List BlockTag} {past : Nat},
    (∀ tag ∈ tags, Inside cs.length tag) → past ≤ cs.length →
      Spans cs.length past (separate trim cs past tags) := by
  intro tags
  induction tags with
  | nil => intro past _ hpast; exact hpast
  | cons tag tags ih =>
      intro past hin hpast
      have hrest : ∀ tag ∈ tags, Inside cs.length tag := fun t ht => hin t (by simp [ht])
      rw [separate]
      split
      · exact ih hrest hpast
      · next hnot =>
          obtain ⟨h1, h2, h3⟩ := trimmed_bounds trim (Nat.le_of_not_lt hnot)
            (hin tag (by simp))
          exact ⟨h1, h2, ih hrest h3⟩

/-- The tags of a text stand in order, without overlap and inside the text. -/
theorem scan_spans {p : Patterns} {trim : Trimming} {cs : List Char} {tags : List BlockTag}
    (h : scan p trim cs = .ok tags) : Spans cs.length 0 tags := by
  obtain ⟨finds, hfinds, rfl⟩ := map_eq_ok.1 h
  exact separate_spans (fun _ => mem_found hfinds) (Nat.zero_le _)

end Stencil.BlockTag
