import Stencil.Proofs.Filters.Words

/-!
# Which boundaries of words are found again

Words with separators between them are joined, each but the first with a
capital, before they are separated again, and a boundary is found again by a
small letter in front of a capital. So it is lost behind a word that ends in a
digit, and behind one that is a capital and nothing else: a single letter that is
not the first word. `words_rejoined` gives the text that comes back for any words
and any separators, and tells from it when that is the words themselves.
-/

namespace Stencil.Words

open Stencil.Text

/-! ## Words and their joined form -/

/-- A small letter, and then small letters and digits. -/
def IsWord : List Char → Prop
  | [] => False
  | c :: cs => isSmall c = true ∧ ∀ d ∈ cs, isSmallOrDigit d = true

instance : DecidablePred IsWord
  | [] => isFalse id
  | c :: cs => inferInstanceAs (Decidable (isSmall c = true ∧ ∀ d ∈ cs, isSmallOrDigit d = true))

/-- Words with a separator in front of each but the first. -/
def linked (first : List Char) (rest : List (Char × List Char)) : List Char :=
  first ++ rest.flatMap fun e => e.1 :: e.2

def endsSmall (cs : List Char) : Bool := cs.getLast?.any isSmall

/-- What comes back of the words behind another, where `kept` says whether the
boundary in front of them is found again. -/
def rejoined (mark : Char) : (kept : Bool) → List (List Char) → List Char
  | _, [] => []
  | kept, w :: ws => (if kept then [mark] else []) ++ (w ++ rejoined mark (endsSmall w.tail) ws)

theorem rejoined_cons (mark : Char) (kept : Bool) (w : List Char) (ws : List (List Char)) :
    rejoined mark kept (w :: ws) =
      (if kept then [mark] else []) ++ (w ++ rejoined mark (endsSmall w.tail) ws) := rfl

section

variable {b : Bool} {c d : Char} {cs run w : List Char} {ws : List (List Char)}

theorem isSmallOrDigit_ascii (h : isSmallOrDigit c = true) : c.toNat < 0x80 := by
  have hz : 'z'.toNat = 122 := rfl
  have hnine : '9'.toNat = 57 := rfl
  rcases Bool.or_eq_true_iff.1 h with h | h
  · have hle : c.toNat ≤ 'z'.toNat := of_decide_eq_true (Bool.and_eq_true_iff.1 h).2
    omega
  · have hle := (Char.isDigit_iff_toNat.1 h).2
    omega

/-- What the stages ask about a character of a word. -/
structure Plain (c : Char) : Prop where
  blank : isBlank c = false
  separator : isSeparator c = false
  capital : isCapital c = false
  lower : c.toLower = c

theorem isSmallOrDigit_plain (h : isSmallOrDigit c = true) : Plain c :=
  have hascii := isSmallOrDigit_ascii h
  { blank := ascii_all (p := fun c => isSmallOrDigit c = true → isBlank c = false)
      (by decide) hascii h
    separator := ascii_all (p := fun c => isSmallOrDigit c = true → isSeparator c = false)
      (by decide) hascii h
    capital := ascii_all (p := fun c => isSmallOrDigit c = true → isCapital c = false)
      (by decide) hascii h
    lower := ascii_all (p := fun c => isSmallOrDigit c = true → c.toLower = c)
      (by decide) hascii h }

theorem isSmallOrDigit_of_small (h : isSmall c = true) : isSmallOrDigit c = true := by
  rw [isSmallOrDigit, h, Bool.true_or]

theorem IsWord.chars (h : IsWord w) : ∀ c ∈ w, isSmallOrDigit c = true := by
  cases w with
  | nil => cases h
  | cons c cs => exact List.forall_mem_cons.2 ⟨isSmallOrDigit_of_small h.1, h.2⟩

/-! ## Joining -/

theorem capitalize_run (h : ∀ d ∈ run, isSmallOrDigit d = true) :
    capitalize isBlank false (run ++ cs) = run ++ capitalize isBlank false cs := by
  induction run with
  | nil => rfl
  | cons d run ih =>
      obtain ⟨hd, hrun⟩ := List.forall_mem_cons.1 h
      rw [List.cons_append, capitalize_cons (isSmallOrDigit_ascii hd),
        (isSmallOrDigit_plain hd).blank, ih hrun]
      rfl

theorem capitalize_word (h : IsWord w) :
    capitalize isBlank true (w ++ cs) = upperFirst w ++ capitalize isBlank false cs := by
  cases w with
  | nil => cases h
  | cons c run =>
      have hc := isSmallOrDigit_of_small h.1
      have hascii := isSmallOrDigit_ascii hc
      rw [List.cons_append, capitalize_cons hascii, (isSmallOrDigit_plain hc).blank,
        capitalize_run h.2, upperFirst_cons hascii]
      rfl

theorem upperFirst_joined (h : IsWord w) : ∀ c ∈ upperFirst w, isSeparator c = false := by
  cases w with
  | nil => cases h
  | cons c run =>
      have hc := isSmallOrDigit_of_small h.1
      have hupper := recased_toUpper (isSmallOrDigit_ascii hc)
      rw [upperFirst_cons (isSmallOrDigit_ascii hc)]
      exact List.forall_mem_cons.2 ⟨hupper.separator.trans (isSmallOrDigit_plain hc).separator,
        fun d hd => (isSmallOrDigit_plain (h.2 d hd)).separator⟩

theorem spaced_word (h : IsWord w) : spaced w = w :=
  spaced_eq_self fun c hc => (isSmallOrDigit_plain (h.chars c hc)).separator

theorem spaced_append (cs ds : List Char) : spaced (cs ++ ds) = spaced cs ++ spaced ds :=
  List.map_append

theorem spaced_separator (h : isSeparator c = true) (cs : List Char) :
    spaced (c :: cs) = ' ' :: spaced cs := by
  simp only [isSeparator, Bool.or_eq_true, beq_iff_eq] at h
  rcases h with (rfl | rfl) | rfl <;> rfl

variable {rest : List (Char × List Char)}

/-- The words behind a separator, joined. -/
theorem together_rest (h : ∀ e ∈ rest, isSeparator e.1 = true ∧ IsWord e.2) :
    (capitalize isBlank false (spaced (rest.flatMap fun e => e.1 :: e.2))).filter (· != ' ') =
      (rest.map (·.2)).flatMap upperFirst := by
  induction rest with
  | nil => rfl
  | cons e rest ih =>
      obtain ⟨⟨hsep, hword⟩, hrest⟩ := List.forall_mem_cons.1 h
      rw [List.flatMap_cons, spaced_append, spaced_separator hsep, spaced_word hword,
        List.cons_append, capitalize_cons (by decide)]
      rw [show isBlank ' ' = true by decide, capitalize_word hword,
        List.filter_cons_of_neg (by decide), List.filter_append, ih hrest, unspaced_eq_self (upperFirst_joined hword)]
      rfl

theorem camelCase_linked {first : List Char} (hfirst : IsWord first)
    (hrest : ∀ e ∈ rest, isSeparator e.1 = true ∧ IsWord e.2) :
    camelCase (linked first rest) = first ++ (rest.map (·.2)).flatMap upperFirst := by
  have htogether : together (linked first rest) =
      upperFirst first ++ (rest.map (·.2)).flatMap upperFirst := by
    rw [together, linked, spaced_append, spaced_word hfirst, capitalize_word hfirst,
      List.filter_append, together_rest hrest, unspaced_eq_self (upperFirst_joined hfirst)]
  cases first with
  | nil => cases hfirst
  | cons c run =>
      have hc := isSmallOrDigit_of_small hfirst.1
      have hascii := isSmallOrDigit_ascii hc
      have hupper := recased_toUpper hascii
      have hlower : isLower c = true := (isLower_ascii hascii).trans
        (ascii_all (p := fun c => isSmall c = true → c.isLower = true) (by decide) hascii hfirst.1)
      rw [upperFirst_cons hascii] at htogether
      rw [linked, List.cons_append] at htogether ⊢
      rw [camelCase_cons, if_pos hlower, htogether, List.cons_append, lowerFirst_cons hupper.ascii,
        hupper.lower, (isSmallOrDigit_plain hc).lower]
      rfl

/-! ## Separating -/

/-- Inside of a word there is no hump. -/
theorem flattened_run (h : ∀ d ∈ run, isSmallOrDigit d = true) (c : Char) (cs : List Char) :
    flattened (c :: (run ++ cs)) = c.toLower ::
      (run ++ ((if isHump (run.getLastD c) cs then ['_'] else []) ++ flattened cs)) := by
  induction run generalizing c with
  | nil => exact flattened_cons c cs
  | cons d run ih =>
      obtain ⟨hd, hrun⟩ := List.forall_mem_cons.1 h
      have hnone : isHump c (d :: (run ++ cs)) = false := by
        rw [isHump, List.head?_cons, Option.any_some, (isSmallOrDigit_plain hd).capital,
          Bool.and_false]
      rw [List.cons_append, flattened_cons, hnone, ih hrun, (isSmallOrDigit_plain hd).lower,
        List.getLastD_cons]
      rfl

theorem isSmall_getLastD (run : List Char) (hc : isSmall c = false) :
    isSmall (run.getLastD c) = endsSmall run := by
  rw [endsSmall, List.getLastD_eq_getLast?]
  cases run.getLast? with
  | none => exact hc
  | some d => rfl

/-- Behind the characters of a word the next words come back, each with its
boundary or without it. -/
theorem flattened_words (hrun : ∀ d ∈ run, isSmallOrDigit d = true) (hws : ∀ w ∈ ws, IsWord w)
    (c : Char) : flattened (c :: (run ++ ws.flatMap upperFirst)) =
      c.toLower :: (run ++ rejoined '_' (isSmall (run.getLastD c)) ws) := by
  induction ws generalizing c run with
  | nil =>
      rw [List.flatMap_nil, flattened_run hrun, isHump, List.head?_nil, Option.any_none,
        Bool.and_false]
      rfl
  | cons w ws ih =>
      obtain ⟨hw, hrest⟩ := List.forall_mem_cons.1 hws
      cases w with
      | nil => cases hw
      | cons d tail =>
          have hd := isSmallOrDigit_of_small hw.1
          have hascii := isSmallOrDigit_ascii hd
          have hupper := recased_toUpper hascii
          have hcapital : isCapital d.toUpper = true ∧ isSmall d.toUpper = false :=
            ascii_all (p := fun d => isSmall d = true →
              isCapital d.toUpper = true ∧ isSmall d.toUpper = false) (by decide) hascii hw.1
          rw [List.flatMap_cons, upperFirst_cons hascii, List.cons_append, flattened_run hrun,
            ih hw.2 hrest, hupper.lower, (isSmallOrDigit_plain hd).lower,
            isSmall_getLastD tail hcapital.2, isHump, List.head?_cons, Option.any_some,
            hcapital.1, Bool.and_true, rejoined_cons]
          rfl

theorem linked_ascii {first : List Char} (hfirst : IsWord first)
    (hrest : ∀ e ∈ rest, isSeparator e.1 = true ∧ IsWord e.2) : IsAscii (linked first rest) := by
  refine isAscii_append.2 ⟨fun c hc => isSmallOrDigit_ascii (hfirst.chars c hc), fun c hc => ?_⟩
  obtain ⟨e, he, hc⟩ := List.mem_flatMap.1 hc
  rcases List.mem_cons.1 hc with rfl | hc
  · have hsep := (hrest e he).1
    simp only [isSeparator, Bool.or_eq_true, beq_iff_eq] at hsep
    rcases hsep with (hsep | hsep) | hsep <;> rw [hsep] <;> decide
  · exact isSmallOrDigit_ascii ((hrest e he).2.chars c hc)

theorem snakeCase_linked {first : List Char} (hfirst : IsWord first)
    (hrest : ∀ e ∈ rest, isSeparator e.1 = true ∧ IsWord e.2) :
    snakeCase (linked first rest) =
      first ++ rejoined '_' (endsSmall first) (rest.map (·.2)) := by
  have hwords : ∀ w ∈ rest.map (·.2), IsWord w := by
    intro w hw
    obtain ⟨e, he, rfl⟩ := List.mem_map.1 hw
    exact (hrest e he).2
  rw [snakeCase_eq (linked_ascii hfirst hrest), camelCase_linked hfirst hrest]
  cases first with
  | nil => cases hfirst
  | cons c run =>
      have hend : isSmall (run.getLastD c) = endsSmall (c :: run) := by
        rw [endsSmall, List.getLast?_cons, Option.any_some, List.getLastD_eq_getLast?]
      rw [List.cons_append, flattened_words hfirst.2 hwords, hend,
        (isSmallOrDigit_plain (isSmallOrDigit_of_small hfirst.1)).lower]
      rfl

theorem hyphens_word (h : IsWord w) : w.map (fun c => if c = '_' then '-' else c) = w := by
  refine (List.map_congr_left fun c hc => if_neg ?_).trans (List.map_id w)
  rintro rfl
  exact absurd (h.chars _ hc) (by decide)

theorem hyphens_rejoined (h : ∀ w ∈ ws, IsWord w) :
    (rejoined '_' b ws).map (fun c => if c = '_' then '-' else c) = rejoined '-' b ws := by
  induction ws generalizing b with
  | nil => rfl
  | cons w ws ih =>
      obtain ⟨hw, hws⟩ := List.forall_mem_cons.1 h
      rw [rejoined_cons, rejoined_cons, List.map_append, List.map_append, hyphens_word hw, ih hws]
      cases b <;> rfl

/-! ## When all boundaries are found -/

theorem length_rejoined_le (mark : Char) (b : Bool) (ws : List (List Char)) :
    (rejoined mark b ws).length ≤ (ws.flatMap (mark :: ·)).length := by
  induction ws generalizing b with
  | nil => exact Nat.le_refl _
  | cons w ws ih =>
      have := ih (endsSmall w.tail)
      rw [rejoined_cons, List.flatMap_cons]
      cases b <;> simp only [List.length_append, List.length_cons, if_true, if_false,
        Bool.false_eq_true, List.length_nil, List.cons_append] <;> omega

theorem rejoined_eq_all {mark : Char} : rejoined mark b ws = ws.flatMap (mark :: ·) ↔
    (ws ≠ [] → b = true) ∧ ∀ w ∈ ws.dropLast, endsSmall w.tail = true := by
  induction ws generalizing b with
  | nil => exact ⟨fun _ => ⟨fun hne => absurd rfl hne, by simp⟩, fun _ => rfl⟩
  | cons w ws ih =>
      have hshort := length_rejoined_le mark (endsSmall w.tail) ws
      rw [rejoined_cons, List.flatMap_cons]
      cases b with
      | false =>
          refine ⟨fun h => ?_, fun h => absurd (h.1 (by simp)) (by simp)⟩
          have hlength := congrArg List.length h
          simp only [Bool.false_eq_true, if_false, List.nil_append, List.length_append,
            List.length_cons, List.cons_append] at hlength
          omega
      | true =>
          have hcancel : (if true then [mark] else []) ++
                (w ++ rejoined mark (endsSmall w.tail) ws) =
              mark :: w ++ ws.flatMap (mark :: ·) ↔
              rejoined mark (endsSmall w.tail) ws = ws.flatMap (mark :: ·) := by simp
          rw [hcancel, ih]
          cases ws with
          | nil => simp
          | cons v vs => simp

theorem joinWith_flatMap (mark : Char) (w : List Char) (ws : List (List Char)) :
    joinWith [mark] (w :: ws) = w ++ ws.flatMap (mark :: ·) := by
  induction ws generalizing w with
  | nil => exact (List.append_nil w).symm
  | cons v ws ih =>
      show w ++ [mark] ++ joinWith [mark] (v :: ws) = _
      rw [ih v, List.flatMap_cons, List.append_assoc]
      rfl

theorem apply_words {name : String} {f : List Char → List Char}
    (hname : Registry.standard.get name = .ok ⟨some name, Standard.onText f⟩) (cs : List Char) :
    Registry.standard.apply name (Value.ofChars cs) [] = .ok (Value.ofChars (f cs)) := by
  rw [Value.ofChars, Standard.apply_onText hname, String.toList_ofList]
  rfl

/-- Every word in front of another ends in a small letter that is not its
capital: the first word may be a single letter, the others may not. -/
def KeepsBoundaries (first : List Char) (ws : List (List Char)) : Prop :=
  (ws ≠ [] → endsSmall first = true) ∧ ∀ w ∈ ws.dropLast, endsSmall w.tail = true

/-- Words with separators between them come back with low lines, or hyphens, at
those boundaries that are found again, and so as the words with a mark between
all neighbours exactly if each word in front of another ends in a small letter
and is not a single letter behind another word. -/
theorem words_rejoined {first : List Char} {rest : List (Char × List Char)} (hfirst : IsWord first)
    (hrest : ∀ e ∈ rest, isSeparator e.1 = true ∧ IsWord e.2) :
    let ws := rest.map (·.2)
    let text := Value.ofChars (linked first rest)
    let back := fun mark => first ++ rejoined mark (endsSmall first) ws
    Registry.standard.apply "snakeCase" text [] = .ok (Value.ofChars (back '_')) ∧
      Registry.standard.apply "kebabCase" text [] = .ok (Value.ofChars (back '-')) ∧
      ∀ mark, back mark = joinWith [mark] (first :: ws) ↔ KeepsBoundaries first ws := by
  intro ws text back
  have hsnake : snakeCase (linked first rest) = back '_' := snakeCase_linked hfirst hrest
  have hwords : ∀ w ∈ ws, IsWord w := by
    intro w hw
    obtain ⟨e, he, rfl⟩ := List.mem_map.1 hw
    exact (hrest e he).2
  have hkebab : kebabCase (linked first rest) = back '-' := by
    rw [kebabCase, hsnake]
    show (first ++ _).map _ = _
    rw [List.map_append, hyphens_word hfirst, hyphens_rejoined hwords]
  refine ⟨?_, ?_, fun mark => ?_⟩
  · rw [← hsnake]
    exact apply_words rfl _
  · rw [← hkebab]
    exact apply_words rfl _
  · rw [joinWith_flatMap]
    exact (List.append_right_inj first).trans rejoined_eq_all

end

theorem words_rejoined_mixed :
    let rest := [('-', "b".toList), (' ', "name".toList), ('_', "x".toList)]
    IsWord "item1".toList ∧ (∀ e ∈ rest, isSeparator e.1 = true ∧ IsWord e.2) ∧
      Registry.standard.apply "snakeCase" (.str "item1-b name_x") [] =
        .ok (.str "item1bname_x") ∧
      Registry.standard.apply "kebabCase" (.str "item1-b name_x") [] =
        .ok (.str "item1bname-x") := by
  intro rest
  have hfirst : IsWord "item1".toList := by decide
  have hrest : ∀ e ∈ rest, isSeparator e.1 = true ∧ IsWord e.2 := by decide
  obtain ⟨hsnake, hkebab, -⟩ := words_rejoined hfirst hrest
  exact ⟨hfirst, hrest, hsnake, hkebab⟩

/-- Words in snake case do not stay as they are where a word is a single letter
or ends in a digit. -/
theorem snakeCase_loses_boundaries :
    (∀ w ∈ ["a", "b", "c", "item1", "name"], IsWord w.toList) ∧
      Registry.standard.apply "snakeCase" (.str "a_b_c") [] = .ok (.str "a_bc") ∧
      Registry.standard.apply "snakeCase" (.str "item1_name") [] = .ok (.str "item1name") ∧
      Registry.standard.apply "kebabCase" (.str "a b c") [] = .ok (.str "a-bc") :=
  ⟨by decide, by rfl, by rfl, by rfl⟩

end Stencil.Words
