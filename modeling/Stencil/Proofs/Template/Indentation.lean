import Stencil.Proofs.Template.Trimmed

/-!
# What trimming takes in front of a tag

A tag that is told to take in its indentation reaches back over spaces and
tabs to the start of its line, but never into the tag before it. So it ends
up at one of three places: where it was, where its line begins, or where the
tag before it ends. The third is more than indentation, for the blanks between
two tags of one line are taken in as well. `scan_indentation` tells the three
apart for all tags of a text: a tag that was moved begins a line exactly if
no tag ends behind the start of that line.
-/

namespace Stencil.BlockTag

open Stencil.Regex Stencil.Text

/-! ## Lines -/

/-- A line begins at the place `i`: the text does, or a line feed stands right
in front of it. -/
def BeginsLine (cs : List Char) (i : Nat) : Prop :=
  i = 0 ∨ ∃ j, i = j + 1 ∧ cs[j]? = some '\n'

/-- Where the line begins that the place `i` lies on. -/
def lineStart (cs : List Char) (i : Nat) : Nat :=
  i - ((cs.take i).reverse.takeWhile (· != '\n')).length

section

variable {cs : List Char} {i j : Nat}

theorem lineStart_le (cs : List Char) (i : Nat) : lineStart cs i ≤ i := Nat.sub_le _ _

/-- The text in front of a place is whole lines and the line that the place
lies on. -/
theorem take_lineStart (h : i ≤ cs.length) : ∃ front line, cs.take i = front ++ line ∧
    front.length = lineStart cs i ∧ (∀ c ∈ front.getLast?, c = '\n') ∧ '\n' ∉ line := by
  have hsplit := List.takeWhile_append_dropWhile (p := (· != '\n')) (l := (cs.take i).reverse)
  refine ⟨((cs.take i).reverse.dropWhile (· != '\n')).reverse,
    ((cs.take i).reverse.takeWhile (· != '\n')).reverse, ?_, ?_, ?_, ?_⟩
  · rw [← List.reverse_append, hsplit, List.reverse_reverse]
  · have hlength := congrArg List.length hsplit
    rw [List.length_append, List.length_reverse, List.length_take, Nat.min_eq_left h] at hlength
    rw [List.length_reverse, lineStart]
    omega
  · intro c hc
    rw [List.getLast?_reverse] at hc
    have hstops := List.head?_dropWhile_not (· != '\n') (cs.take i).reverse
    rw [hc] at hstops
    simpa using hstops
  · intro hmem
    have hfree := List.all_eq_true.1 List.all_takeWhile _ (List.mem_reverse.1 hmem)
    exact absurd hfree (by decide)

theorem beginsLine_lineStart (h : i ≤ cs.length) : BeginsLine cs (lineStart cs i) := by
  obtain ⟨front, line, htake, hlength, hlast, -⟩ := take_lineStart h
  rw [← hlength]
  rcases List.eq_nil_or_concat front with rfl | ⟨front, c, rfl⟩
  · exact .inl rfl
  · right
    obtain rfl : c = '\n' := hlast c (by rw [List.concat_eq_append, List.getLast?_concat]; rfl)
    refine ⟨front.length, by rw [List.length_concat], ?_⟩
    have hlt : front.length < i := by
      have := lineStart_le cs i
      rw [List.length_concat] at hlength
      omega
    rw [← List.getElem?_take_of_lt hlt, htake, List.concat_eq_append, List.append_assoc,
      List.getElem?_append_right (Nat.le_refl _), Nat.sub_self]
    rfl

theorem not_lineFeed (h : i ≤ cs.length) (hlow : lineStart cs i ≤ j) (hhigh : j < i) :
    cs[j]? ≠ some '\n' := by
  obtain ⟨front, line, htake, hlength, -, hline⟩ := take_lineStart h
  intro hj
  rw [← List.getElem?_take_of_lt hhigh, htake,
    List.getElem?_append_right (by omega)] at hj
  exact hline (List.mem_of_getElem? hj)

/-- On the way back from a place to the start of its line no other line
begins. -/
theorem beginsLine_iff (h : i ≤ cs.length) (hlow : lineStart cs i ≤ j) (hhigh : j ≤ i) :
    BeginsLine cs j ↔ j = lineStart cs i := by
  constructor
  · rintro (rfl | ⟨k, rfl, hk⟩)
    · omega
    · by_contra hne
      exact not_lineFeed h (by omega) (by omega) hk
  · rintro rfl
    exact beginsLine_lineStart h

end

/-! ## One tag -/

/-- The tag `tag'` is the tag `tag` that has taken in what is in front of it,
where `past` is the end of the tag before it. -/
structure Indented (cs : List Char) (past : Nat) (tag tag' : BlockTag) : Prop where
  /-- What it has taken in is blank. -/
  widened : Widened cs tag tag'
  /-- It is moved as far as it may be or not at all. -/
  start : tag'.start = tag.start ∨ tag'.start = max (lineStart cs tag.start) past
  /-- It is moved if nothing else stands there. -/
  moved : (∀ c ∈ slice cs (max (lineStart cs tag.start) past) tag.start, isIndent c = true) →
    tag'.start = max (lineStart cs tag.start) past
  /-- Once moved it begins a line, unless the tag before it ends on its line. -/
  beginsLine : tag'.start ≠ tag.start →
    (BeginsLine cs tag'.start ↔ past ≤ lineStart cs tag.start)

theorem trimmedStart_eq (cs : List Char) (past start : Nat) : trimmedStart cs past start =
    if (slice cs (max (lineStart cs start) past) start).all isIndent then
      max (lineStart cs start) past
    else start := rfl

theorem trimmed_indented (after : Bool) {cs : List Char} {past : Nat} {tag : BlockTag}
    (hpast : past ≤ tag.start) (hin : tag.start ≤ cs.length) :
    Indented cs past tag (trimmed ⟨true, after⟩ cs past tag) := by
  have hstart : (trimmed ⟨true, after⟩ cs past tag).start = trimmedStart cs past tag.start := rfl
  have hplaces : trimmedStart cs past tag.start = tag.start ∨
      trimmedStart cs past tag.start = max (lineStart cs tag.start) past := by
    rw [trimmedStart_eq]
    split
    · exact .inr rfl
    · exact .inl rfl
  refine ⟨trimmed_widened _ cs hpast, hplaces, fun hblank => ?_, fun hmoved => ?_⟩
  · rw [hstart, trimmedStart_eq, if_pos (List.all_eq_true.2 hblank)]
  · rw [hstart] at hmoved ⊢
    rw [hplaces.resolve_left hmoved]
    have hline := lineStart_le cs tag.start
    rw [beginsLine_iff hin (by omega) (by omega)]
    omega

/-! ## All tags of a text -/

/-- Where the tag in front of the `i`-th one ends, and `past` in front of the
first. -/
def stopBefore : (past : Nat) → List BlockTag → (i : Nat) → Nat
  | past, _, 0 => past
  | past, [], _ + 1 => past
  | _, tag :: tags, i + 1 => stopBefore tag.stop tags i

theorem separate_indented (after : Bool) {cs : List Char} : ∀ {tags : List BlockTag}
    {past wide : Nat}, (∀ tag ∈ tags, cs[tag.start]? = some '<') → past ≤ wide →
    (∀ c ∈ slice cs past wide, isBlank c = true) → ∀ {i : Nat} {tag tag' : BlockTag},
    (separate .none cs past tags)[i]? = some tag →
    (separate ⟨true, after⟩ cs wide tags)[i]? = some tag' →
    Indented cs (stopBefore wide (separate ⟨true, after⟩ cs wide tags) i) tag tag' := by
  intro tags
  induction tags with
  | nil => intro past wide _ _ _ i tag tag' htag; cases htag
  | cons first tags ih =>
      intro past wide hheads hle hgap i tag tag' htag htag'
      obtain ⟨hhead, hrest⟩ := List.forall_mem_cons.1 hheads
      rw [separate] at htag htag' ⊢
      by_cases hpast : first.start < past
      · rw [if_pos hpast] at htag
        rw [if_pos (Nat.lt_of_lt_of_le hpast hle)] at htag' ⊢
        exact ih hrest hle hgap htag htag'
      · have hwide := not_lt_of_gap (Nat.le_of_not_lt hpast) hgap hhead
        have hin : first.start < cs.length := (List.getElem?_eq_some_iff.1 hhead).1
        rw [if_neg hpast] at htag
        rw [if_neg hwide] at htag' ⊢
        cases i with
        | zero =>
            cases htag
            cases htag'
            exact trimmed_indented after (Nat.le_of_not_lt hwide) (Nat.le_of_lt hin)
        | succ i =>
            have hwidened := trimmed_widened ⟨true, after⟩ cs (Nat.le_of_not_lt hwide)
            exact ih hrest hwidened.le_stop hwidened.back_blank htag htag'

theorem scan_standard (trim : Trimming) (cs : List Char) : scan .standard trim cs =
    .ok (separate trim cs 0 (weave (tagAt? .standard) (fun _ => 0) (Place.ofText cs))) := by
  rw [scan, found_standard]
  rfl

/-- With the standard syntax, trimming in front of the tags of a text takes in
spaces and tabs only, and takes them in back to the start of the line or back
to the tag before. A tag that was moved begins a line exactly if the tag
before it does not end on its line. -/
theorem scan_indentation (after : Bool) (cs : List Char) :
    ∃ plain wide, scan .standard .none cs = .ok plain ∧
      scan .standard ⟨true, after⟩ cs = .ok wide ∧ plain.length = wide.length ∧
      ∀ i tag tag', plain[i]? = some tag → wide[i]? = some tag' →
        Indented cs (stopBefore 0 wide i) tag tag' := by
  have hheads : ∀ tag ∈ weave (tagAt? .standard) (fun _ => 0) (Place.ofText cs),
      cs[tag.start]? = some '<' := fun tag hmem => found_head (found_standard cs) hmem
  have hwide := scan_standard ⟨true, after⟩ cs
  obtain ⟨plain, hplain, hwidened⟩ := scan_widened ⟨true, after⟩ cs hwide
  refine ⟨plain, _, hplain, hwide, hwidened.length_eq, fun i tag tag' htag htag' => ?_⟩
  rw [scan_standard] at hplain
  cases hplain
  exact separate_indented after hheads (Nat.le_refl 0) (by simp) htag htag'

/-- The blanks between two tags of one line are taken in, though the second tag
then begins no line. -/
theorem scan_takes_gap :
    scan .standard .none "<% if 1 %>  <% endif %>".toList =
        .ok [⟨.opening, 0, 10, some "1"⟩, ⟨.closing, 12, 23, none⟩] ∧
      scan .standard ⟨true, false⟩ "<% if 1 %>  <% endif %>".toList =
        .ok [⟨.opening, 0, 10, some "1"⟩, ⟨.closing, 10, 23, none⟩] ∧
      ¬ BeginsLine "<% if 1 %>  <% endif %>".toList 10 := by
  refine ⟨?_, ?_, ?_⟩
  · rw [scan_eq_onePass]
    rfl
  · rw [scan_standard]
    rfl
  · rintro (h | ⟨j, h, hfeed⟩)
    · cases h
    · cases h
      cases hfeed

end Stencil.BlockTag
