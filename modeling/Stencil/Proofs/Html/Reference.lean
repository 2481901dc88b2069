import Stencil.Html.Reference

/-!
# Escaped text is read back

Every escaped character is one step for the reader, and the step ends exactly
where the character ends: a reference that was written carries its semicolon, so
the reader never has to look for the longest name that begins it, and what it
stands for is not read a second time. The result follows by induction over the
characters that were escaped, whatever references they spell among themselves.

The four names are looked up in the table one line at a time. A line is compared
as characters, and the lines behind the one that has the name are never read.
-/

namespace Stencil.Html

open Stencil.Text

/-! ## Names in the table -/

/-- The entries of a line of the table. -/
def entriesOf (line : List Char) : List (List Char × List Char) := (splitOn ' ' line).map entry

section Lines

variable {name text ds : List Char} {line : String} {lines : List String}

theorem named?_cons {c : Char} (lines : List String) (hlines : namesWith c = lines) :
    named? (c :: name) =
      (lines.flatMap fun line => entriesOf line.toList).lookup (c :: name) :=
  hlines ▸ rfl

theorem lookup_line_skip {found : Option (List Char)} (hline : line = String.ofList text)
    (h : (entriesOf text).lookup name = none)
    (hrest : (lines.flatMap fun line => entriesOf line.toList).lookup name = found) :
    ((line :: lines).flatMap fun line => entriesOf line.toList).lookup name = found := by
  rw [List.flatMap_cons, List.lookup_append, hline, String.toList_ofList, h, Option.none_or, hrest]

theorem lookup_line_found (hline : line = String.ofList text)
    (h : (entriesOf text).lookup name = some ds) :
    ((line :: lines).flatMap fun line => entriesOf line.toList).lookup name = some ds := by
  rw [List.flatMap_cons, List.lookup_append, hline, String.toList_ofList, h, Option.some_or]

end Lines

theorem named?_amp : named? ['a', 'm', 'p', ';'] = some ['&'] := by
  rw [named?_cons lowerANames rfl, lowerANames]
  repeat refine lookup_line_skip rfl (by decide) ?_
  exact lookup_line_found rfl (by decide)

theorem named?_lt : named? ['l', 't', ';'] = some ['<'] := by
  rw [named?_cons lowerLNames rfl, lowerLNames]
  repeat refine lookup_line_skip rfl (by decide) ?_
  exact lookup_line_found rfl (by decide)

theorem named?_gt : named? ['g', 't', ';'] = some ['>'] := by
  rw [named?_cons lowerGNames rfl, lowerGNames]
  repeat refine lookup_line_skip rfl (by decide) ?_
  exact lookup_line_found rfl (by decide)

theorem named?_quot : named? ['q', 'u', 'o', 't', ';'] = some ['"'] := by
  rw [named?_cons lowerQNames rfl, lowerQNames]
  repeat refine lookup_line_skip rfl (by decide) ?_
  exact lookup_line_found rfl (by decide)

/-! ## One reference -/

/-- A name with its semicolon is read as what it stands for, whatever follows. -/
theorem reference?_named (name : List Char) {ds : List Char}
    (hname : name.all isNameChar = true) (hne : name ≠ []) (hlen : name.length ≤ 32)
    (hds : named? (name ++ [';']) = some ds) (rest : List Char) :
    reference? (name ++ ';' :: rest) = .ok (some (ds, rest)) := by
  have hname := List.all_eq_true.1 hname
  have htaken : ((name ++ ';' :: rest).takeWhile isNameChar).take 32 = name := by
    rw [List.takeWhile_append_of_pos hname, List.takeWhile_cons_of_neg (by decide), List.append_nil,
      List.take_of_length_le hlen]
  have hdropped : (name ++ ';' :: rest).drop name.length = ';' :: rest := List.drop_left
  unfold reference?
  split
  · next digits heq =>
      obtain ⟨c, cs, rfl⟩ := List.exists_cons_of_ne_nil hne
      obtain ⟨rfl, -⟩ := List.cons_eq_cons.1 heq
      exact absurd (hname '#' List.mem_cons_self) (by decide)
  · next heq =>
      simp only [htaken, hdropped, List.isEmpty_eq_false_iff.2 hne, namedText, hds]
      rfl

/-- The characters that are written as references, in the order in which they are replaced. -/
def special : List Char := ['&', '<', '>', '"', '\'']

/-- What is written for the characters that have a reference. -/
def entities : List (List Char) := special.map escapeChar

example : entities.map String.ofList = ["&amp;", "&lt;", "&gt;", "&quot;", "&#x27;"] := rfl

theorem escapeChar_plain {c : Char} (h : c ∉ special) : escapeChar c = [c] := by
  unfold escapeChar
  split <;> first | exact absurd (by decide) h | rfl

/-- A reference begins with an ampersand and has no other, and the reader takes it whole. -/
theorem escapeChar_special {c : Char} (h : c ∈ special) : ∃ ref, escapeChar c = '&' :: ref ∧
    '&' ∉ ref ∧ ∀ rest, reference? (ref ++ rest) = .ok (some ([c], rest)) := by
  simp only [special, List.mem_cons, List.not_mem_nil, or_false] at h
  rcases h with rfl | rfl | rfl | rfl | rfl
  · exact ⟨['a', 'm', 'p', ';'], rfl, by decide,
      reference?_named ['a', 'm', 'p'] rfl (by decide) (by decide) named?_amp⟩
  · exact ⟨['l', 't', ';'], rfl, by decide,
      reference?_named ['l', 't'] rfl (by decide) (by decide) named?_lt⟩
  · exact ⟨['g', 't', ';'], rfl, by decide,
      reference?_named ['g', 't'] rfl (by decide) (by decide) named?_gt⟩
  · exact ⟨['q', 'u', 'o', 't', ';'], rfl, by decide,
      reference?_named ['q', 'u', 'o', 't'] rfl (by decide) (by decide) named?_quot⟩
  · exact ⟨['#', 'x', '2', '7', ';'], rfl, by decide, fun rest => rfl⟩

/-! ## Whole texts -/

theorem escape_cons (c : Char) (cs : List Char) : escape (c :: cs) = escapeChar c ++ escape cs :=
  List.flatMap_cons

/-- Escaping never shortens a text, so the reader has a step for every character. -/
theorem length_le_escape (cs : List Char) : cs.length ≤ (escape cs).length := by
  induction cs with
  | nil => exact Nat.zero_le _
  | cons c cs ih =>
      have hc : 1 ≤ (escapeChar c).length := by
        by_cases h : c ∈ special
        · obtain ⟨ref, href, -⟩ := escapeChar_special h
          rw [href, List.length_cons]
          omega
        · simp [escapeChar_plain h]
      rw [escape_cons, List.length_append, List.length_cons]
      omega

/-- One escaped character is one step. -/
theorem unescapeFrom_escapeChar (c : Char) (tries : Nat) (rest : List Char) :
    unescapeFrom (tries + 1) (escapeChar c ++ rest) =
      (unescapeFrom tries rest).map (c :: ·) := by
  by_cases h : c ∈ special
  · obtain ⟨ref, href, -, hread⟩ := escapeChar_special h
    rw [href, List.cons_append, unescapeFrom, if_pos rfl, hread]
    rfl
  · have hc : c ≠ '&' := fun hc => h (hc ▸ List.mem_cons_self)
    rw [escapeChar_plain h, List.singleton_append, unescapeFrom, if_neg hc]
    rfl

theorem unescapeFrom_escape : ∀ {tries : Nat} {cs : List Char}, cs.length ≤ tries →
    unescapeFrom tries (escape cs) = .ok cs
  | 0, [], _ => rfl
  | _ + 1, [], _ => rfl
  | tries + 1, c :: cs, h => by
      rw [escape_cons, unescapeFrom_escapeChar, unescapeFrom_escape (Nat.le_of_succ_le_succ h)]
      rfl

theorem unescape_escape (cs : List Char) : unescape (escape cs) = .ok cs :=
  unescapeFrom_escape (length_le_escape cs)

/-- Markup has no meaning left in an escaped text. -/
theorem escape_inert (cs : List Char) : ∀ c ∈ escape cs, c ∉ ['<', '>', '"', '\''] := by
  intro c hc
  obtain ⟨d, -, hc⟩ := List.mem_flatMap.1 hc
  by_cases hd : d ∈ special
  · have hinert : (special.all fun d => (escapeChar d).all (· ∉ ['<', '>', '"', '\''])) = true := rfl
    exact of_decide_eq_true (List.all_eq_true.1 (List.all_eq_true.1 hinert d hd) c hc)
  · rw [escapeChar_plain hd, List.mem_singleton] at hc
    exact fun h => hd (hc ▸ List.mem_cons_of_mem _ h)

/-- An ampersand in an escaped text begins one of the references that are written. -/
theorem escape_ampersand (cs front back : List Char) (h : escape cs = front ++ '&' :: back) :
    ∃ e ∈ entities, e <+: '&' :: back := by
  induction cs generalizing front with
  | nil => exact absurd h.symm (List.append_ne_nil_of_right_ne_nil _ (List.cons_ne_nil _ _))
  | cons c cs ih =>
      rw [escape_cons] at h
      rcases List.append_eq_append_iff.1 h with ⟨front', -, hrest⟩ | ⟨inner, hc, hrest⟩
      · exact ih front' hrest
      cases inner with
      | nil => exact ih [] hrest.symm
      | cons d inner =>
          -- The ampersand stands in what was written for `c`, and only its head can be one.
          obtain ⟨rfl, hback⟩ := List.cons_eq_cons.1 hrest
          by_cases hspecial : c ∈ special
          · obtain ⟨ref, href, honly, -⟩ := escapeChar_special hspecial
            rw [href] at hc
            cases front with
            | nil =>
                obtain ⟨-, rfl⟩ := List.cons_eq_cons.1 hc
                refine ⟨escapeChar c, List.mem_map_of_mem hspecial, ?_⟩
                rw [href, hback]
                exact ⟨_, rfl⟩
            | cons f front =>
                obtain ⟨-, rfl⟩ := List.cons_eq_cons.1 hc
                exact absurd (by simp) honly
          · have hmem : '&' ∈ escapeChar c := by simp [hc]
            rw [escapeChar_plain hspecial, List.mem_singleton] at hmem
            exact absurd (hmem ▸ List.mem_cons_self) hspecial

end Stencil.Html
