import Stencil.Proofs.Regex.Step
import Stencil.Template.Pattern
import Stencil.Text.Trim

/-!
# What the standard block tags look like

The expressions of the standard block tags, solved for the text: each matches
at a place exactly if the text there begins with a tag, and a few lengths say
how the tag is divided. `wordLength?` does this for `else` and `endif`,
`openingLengths?` for `if`, whose condition is as short as it can be.

Behind these stand two observations. What may follow a gap begins with no
blank, so a gap never has to be given back once it was taken. And what ends a
tag is decided by the text at that place alone, so the shortest condition is
found by looking for the first place where a tag may end.
-/

namespace Stencil.TagPattern

open Stencil.Regex Stencil.Text

/-! ## Lengths -/

/-- The length of a gap at the beginning of a text. -/
def gapLength : List Char → Nat
  | c :: _ => if isBlank c then 1 else 0
  | [] => 0

/-- The length of a line end at the beginning of a text. -/
def lineEndLength : List Char → Nat
  | '\n' :: _ => 1
  | '\r' :: '\n' :: _ => 2
  | _ => 0

/-- The length of what ends a block tag, if the text begins with that. -/
def tagEnd? (cs : List Char) : Option Nat :=
  (afterPhrase? ['%', '>'] (cs.drop (gapLength cs))).map fun rest =>
    gapLength cs + 2 + lineEndLength rest

/-- The length of a block tag of one word, if the text begins with one. -/
def wordLength? (word cs : List Char) : Option Nat := do
  let cs ← afterPhrase? ['<', '%'] cs
  let rest ← afterPhrase? word (cs.drop (gapLength cs))
  let n ← tagEnd? rest
  pure (2 + gapLength cs + word.length + n)

/-- The first place in the line where a tag may end, and the length of what
ends it there. -/
def firstEnd? : List Char → Option (Nat × Nat)
  | [] => none
  | c :: cs => ((tagEnd? (c :: cs)).map fun n => (0, n)).or
      (if c = '\n' then none else (firstEnd? cs).map fun e => (e.1 + 1, e.2))

/-- The length of a condition, which takes a character at least, and of what
ends the tag behind it. -/
def conditionEnd? : List Char → Option (Nat × Nat)
  | [] => none
  | c :: cs => if c = '\n' then none else (firstEnd? cs).map fun e => (e.1 + 1, e.2)

/-- The lengths of the three parts of an opening tag, if the text begins with
one: what is in front of the condition, the condition, and what is behind. -/
def openingLengths? (cs : List Char) : Option (Nat × Nat × Nat) := do
  let cs ← afterPhrase? ['<', '%'] cs
  let rest ← afterPhrase? ['i', 'f'] (cs.drop (gapLength cs))
  match rest with
  | [] => none
  | c :: rest =>
      if isBlank c then (conditionEnd? rest).map fun e => (gapLength cs + 5, e.1, e.2) else none

theorem tagEnd?_nil : tagEnd? [] = none := rfl

/-! ## Parts of a tag -/

section

variable {p : Place} {k : Continue}

theorem run_char (c : Char) :
    run (.one (.one c)) p k = if p.rest.head? = some c then k (p.skip 1) else none := by
  cases hrest : p.rest with
  | nil => rw [run_one_nil _ hrest]; rfl
  | cons d cs =>
      rw [run_one_cons _ hrest]
      by_cases h : c = d
      · subst h; simp [CharClass.holds]
      · simp [CharClass.holds, h, Ne.symm h]

/-- A part that begins with a character is left out where another stands. -/
theorem run_all_char_none {c : Char} {rs : List Regex} (h : p.rest.head? ≠ some c) :
    run (.all (.one (.one c) :: rs)) p k = none := by
  rw [run_all_cons, run_char, if_neg h]

/-- A text of one class between two characters of which the second is not of
that class. -/
theorem run_enclosed {d : Char} {cl : CharClass} {q : Place} {cs tail : List Char}
    (hrest : p.rest = d :: (cs ++ d :: tail)) (hcs : ∀ c ∈ cs, cl.holds c = true)
    (hd : cl.holds d = false) (hk : k (p.skip (cs.length + 2)) = some q) :
    run (.all [.one (.one d), .many (.one cl), .one (.one d)]) p k = some q := by
  have hrest' : (p.skip 1).rest = cs ++ d :: tail := by rw [Place.skip_rest, hrest]; rfl
  have hend : ((p.skip 1).skip cs.length).rest.head? = some d := by
    rw [Place.skip_rest, hrest', List.drop_left]
    rfl
  have hhead : p.rest.head? = some d := by rw [hrest]; rfl
  rw [run_all_cons, run_char, if_pos hhead, run_all_cons]
  refine run_many_all hrest' hcs ?_ ?_
  · rintro c ⟨⟩
    exact hd
  · rw [run_all_cons, run_char, if_pos hend, run_all_nil, Place.skip_skip, Place.skip_skip,
      Nat.add_comm 1, Nat.add_assoc]
    exact hk

theorem holds_blank (c : Char) : (CharClass.set false [.blank false]).holds c = isBlank c := by
  simp [CharClass.holds, Member.holds]

theorem run_blank {c : Char} {cs : List Char} (hrest : p.rest = c :: cs) :
    run .blank p k = if isBlank c then k (p.skip 1) else none := by
  rw [Regex.blank, run_one_cons _ hrest, holds_blank]

/-- A gap takes whatever blank there is, if the rest cannot begin with one. -/
theorem run_gap (hk : ∀ q c cs, q.rest = c :: cs → isBlank c → k q = none) :
    run gap p k = k (p.skip (gapLength p.rest)) := by
  rw [gap, run_optional]
  cases hrest : p.rest with
  | nil => rw [Regex.blank, run_one_nil _ hrest, gapLength, Place.skip_zero, Option.none_or]
  | cons c cs =>
      rw [run_blank hrest, gapLength]
      by_cases hc : isBlank c = true
      · rw [if_pos hc, if_pos hc, hk p c cs hrest hc, Option.or_none]
      · rw [if_neg hc, if_neg hc, Place.skip_zero, Option.none_or]

theorem run_lineEnd : run lineEnd p some = some (p.skip (lineEndLength p.rest)) := by
  rw [lineEnd, run_optional, run_all_cons, run_optional]
  simp only [run_all_cons, run_all_nil, run_char, Place.skip_rest, Place.skip_skip]
  cases hrest : p.rest with
  | nil => simp [lineEndLength]
  | cons c cs =>
      by_cases hn : c = '\n'
      · subst hn
        simp [lineEndLength]
      · by_cases hr : c = '\r'
        · subst hr
          cases cs with
          | nil => simp [lineEndLength]
          | cons d cs =>
              by_cases hd : d = '\n'
              · subst hd
                simp [lineEndLength]
              · simp [lineEndLength, hd]
        · simp [lineEndLength, hn, hr]

theorem run_all_append (rs ss : List Regex) :
    run (.all (rs ++ ss)) p k = run (.all rs) p fun q => run (.all ss) q k := by
  induction rs generalizing p with
  | nil => rw [List.nil_append, run_all_nil]
  | cons r rs ih =>
      rw [List.cons_append, run_all_cons, run_all_cons]
      congr 1
      funext q
      exact ih

def phrase (word : List Char) : List Regex := word.map fun c => .one (.one c)

theorem run_phrase (word : List Char) : run (.all (phrase word)) p k =
    (afterPhrase? word p.rest).bind fun _ => k (p.skip word.length) := by
  induction word generalizing p with
  | nil => simp [phrase, afterPhrase?]
  | cons c word ih =>
      rw [phrase, List.map_cons, run_all_cons, run_char]
      cases hrest : p.rest with
      | nil => simp [afterPhrase?]
      | cons d cs =>
          rw [← phrase, ih, afterPhrase?, Place.skip_rest, hrest, List.drop_succ_cons,
            List.drop_zero, Place.skip_skip, List.length_cons, List.head?_cons, Nat.add_comm]
          by_cases h : c = d
          · subst h; simp
          · simp [h, Ne.symm h]

theorem run_literal (word : List Char) : run (.literal word) p k =
    (afterPhrase? word p.rest).bind fun _ => k (p.skip word.length) := by
  have hliteral : Regex.literal word = .all (phrase word) := by
    rw [Regex.literal, Regex.all, phrase, List.foldr_map]
  rw [hliteral, run_phrase]

theorem afterPhrase?_eq_some {word cs rest : List Char} :
    afterPhrase? word cs = some rest ↔ cs = word ++ rest := by
  induction word generalizing cs with
  | nil => simp [afterPhrase?]
  | cons c word ih =>
      cases cs with
      | nil => simp [afterPhrase?]
      | cons d cs =>
          rw [afterPhrase?]
          by_cases h : c = d
          · subst h; simp [ih]
          · simp [h, Ne.symm h]

theorem afterPhrase?_blank {w c : Char} {word cs : List Char} (hw : isBlank w = false)
    (hc : isBlank c = true) : afterPhrase? (w :: word) (c :: cs) = none := by
  rw [afterPhrase?, if_neg]
  intro heq
  rw [heq, hc] at hw
  cases hw

theorem run_gap_phrase {w : Char} {word : List Char} (hw : isBlank w = false) :
    (run gap p fun q => run (.all (phrase (w :: word))) q k) =
      (afterPhrase? (w :: word) (p.rest.drop (gapLength p.rest))).bind fun _ =>
        k (p.skip (gapLength p.rest + (w :: word).length)) := by
  rw [run_gap, run_phrase, Place.skip_rest, Place.skip_skip]
  intro q c cs hrest hc
  rw [run_phrase, hrest, afterPhrase?_blank hw hc, Option.bind_none]

/-- What ends a block tag. -/
def tagEnd : List Regex := gap :: (phrase ['%', '>'] ++ [lineEnd])

theorem run_tagEnd : run (.all tagEnd) p some = (tagEnd? p.rest).map p.skip := by
  rw [tagEnd, run_all_cons]
  simp only [run_all_append, run_all_cons, run_all_nil]
  rw [run_gap_phrase (by decide), tagEnd?]
  cases hafter : afterPhrase? ['%', '>'] (p.rest.drop (gapLength p.rest)) with
  | none => rfl
  | some rest =>
      have hdrop : p.rest.drop (gapLength p.rest + 2) = rest := by
        rw [← List.drop_drop, afterPhrase?_eq_some.1 hafter]; rfl
      rw [Option.bind_some, run_lineEnd, Place.skip_skip, Place.skip_rest]
      simp only [List.length_cons, List.length_nil, Nat.zero_add, Nat.reduceAdd, hdrop,
        Option.map_some]

end

/-! ## Whole tags -/

/-- A tag of one word matches exactly where the text begins with one. -/
theorem matchAt?_wordTag {w : Char} {word : List Char} (hw : isBlank w = false) (p : Place) :
    (wordTag (w :: word)).matchAt? true p = (wordLength? (w :: word) p.rest).map p.skip := by
  have hsplit : wordTag (w :: word) =
      .all (phrase ['<', '%'] ++ gap :: (phrase (w :: word) ++ tagEnd)) := by
    simp [wordTag, tagEnd, phrase]
  rw [matchAt?_true, hsplit, run_all_append, run_phrase, wordLength?]
  cases hopen : afterPhrase? ['<', '%'] p.rest with
  | none => rfl
  | some cs =>
      have hcs : (p.skip 2).rest = cs := by
        rw [Place.skip_rest, afterPhrase?_eq_some.1 hopen]; rfl
      simp only [run_all_cons, run_all_append, Option.bind_some, List.length_cons,
        List.length_nil, Nat.zero_add, Nat.reduceAdd, Option.bind_eq_bind]
      rw [run_gap_phrase hw, hcs]
      cases hafter : afterPhrase? (w :: word) (cs.drop (gapLength cs)) with
      | none => rfl
      | some rest =>
          have hrest : (p.skip (2 + (gapLength cs + (w :: word).length))).rest = rest := by
            rw [← Place.skip_skip, Place.skip_rest, hcs, ← List.drop_drop,
              afterPhrase?_eq_some.1 hafter, List.drop_left]
          rw [Option.bind_some, Option.bind_some, Place.skip_skip, run_tagEnd, hrest]
          cases tagEnd? rest with
          | none => rfl
          | some n =>
              simp only [Option.map_some, Option.bind_some, Option.pure_def, Place.skip_skip]
              simp only [List.length_cons]
              congr 2
              omega

/-- A condition and what ends the tag behind it, for whatever is done with
the two lengths. -/
theorem run_firstEnd {k : Continue} {α : Place → Nat → Place}
    (hk : ∀ q, k q = (tagEnd? q.rest).map (α q)) (p : Place) :
    run (.manyLazy (.one .inLine)) p k = (firstEnd? p.rest).map fun e => α (p.skip e.1) e.2 := by
  induction p using Place.along with
  | nil p hrest =>
      rw [run_manyLazy, Place.step?_nil _ hrest, hk, hrest, tagEnd?_nil]
      rfl
  | cons p c cs hrest ih =>
      rw [Place.skip_rest, hrest, List.drop_succ_cons, List.drop_zero] at ih
      rw [run_manyLazy, Place.step?_cons _ hrest, hk, hrest, firstEnd?]
      cases tagEnd? (c :: cs) with
      | some m => simp
      | none =>
          by_cases hc : c = '\n'
          · simp [hc, CharClass.holds]
          · simp [hc, CharClass.holds, ih, Place.skip_skip, Function.comp_def, Nat.add_comm]

/-- A condition, as short as it can be, and the end of the tag. -/
theorem run_condition (p : Place) :
    run (.all (.group "condition" (.all [.some1Lazy (.one .inLine)]) :: tagEnd)) p some =
      (conditionEnd? p.rest).map fun e =>
        p.marked (e.1 + e.2) (("condition", p.rest.take e.1) :: p.groups) := by
  have hmarked : ∀ n m, (p.keep "condition" (p.skip n)).skip m =
      p.marked (n + m) (("condition", p.rest.take n) :: p.groups) := fun n m => by
    rw [p.skip_eq_marked n, Place.keep_marked, Place.marked_skip]
  have hend : ∀ q, run (.all tagEnd) (p.keep "condition" q) some =
      (tagEnd? q.rest).map (p.keep "condition" q).skip := fun q => run_tagEnd
  simp only [run_all_cons, run_all_nil, run_group]
  rw [run_some1Lazy]
  cases hrest : p.rest with
  | nil => rw [Place.step?_nil _ hrest]; rfl
  | cons c cs =>
      rw [Place.step?_cons _ hrest, conditionEnd?]
      by_cases hc : c = '\n'
      · simp [hc, CharClass.holds]
      · have hholds : CharClass.inLine.holds c = true := by simp [CharClass.holds, hc]
        have hnext : (p.skip 1).rest = cs := by rw [Place.skip_rest, hrest]; rfl
        rw [if_pos hholds, Option.bind_some, run_firstEnd hend, hnext, if_neg hc,
          Option.map_map, ← hrest]
        congr 1
        funext e
        simp only [Function.comp, Place.skip_skip, hmarked, Nat.add_comm]

/-- The match of an opening tag: where it ends, and its condition. -/
theorem matchAt?_standardIf (p : Place) : standardIf.regex.matchAt? true p =
    (openingLengths? p.rest).map fun e => p.marked (e.1 + e.2.1 + e.2.2)
      (("condition", (p.rest.drop e.1).take e.2.1) :: p.groups) := by
  have hsplit : standardIf.regex = .all (phrase ['<', '%'] ++ gap :: (phrase ['i', 'f'] ++
      .blank :: .group "condition" (.all [.some1Lazy (.one .inLine)]) :: tagEnd)) := by
    simp [standardIf, tagEnd, phrase]
  rw [matchAt?_true, hsplit, run_all_append, run_phrase, openingLengths?]
  cases hopen : afterPhrase? ['<', '%'] p.rest with
  | none => rfl
  | some cs =>
      have hcs : (p.skip 2).rest = cs := by
        rw [Place.skip_rest, afterPhrase?_eq_some.1 hopen]; rfl
      simp only [run_all_cons, run_all_append, Option.bind_some, List.length_cons,
        List.length_nil, Nat.zero_add, Nat.reduceAdd, Option.bind_eq_bind]
      rw [run_gap_phrase (by decide), hcs]
      cases hafter : afterPhrase? ['i', 'f'] (cs.drop (gapLength cs)) with
      | none => rfl
      | some rest =>
          have hrest : (p.skip (gapLength cs + 4)).rest = rest := by
            rw [Nat.add_comm, show 4 + gapLength cs = 2 + (gapLength cs + 2) by omega,
              ← Place.skip_skip, Place.skip_rest, hcs, ← List.drop_drop,
              afterPhrase?_eq_some.1 hafter]; rfl
          have hskip : 2 + (gapLength cs + 2) = gapLength cs + 4 := by omega
          simp only [Option.bind_some, Place.skip_skip, List.length_cons, List.length_nil,
            Nat.zero_add, Nat.reduceAdd, hskip]
          cases rest with
          | nil => rw [Regex.blank, run_one_nil _ hrest]; rfl
          | cons c rest =>
              rw [run_blank hrest]
              by_cases hc : isBlank c = true
              · have hnext : (p.skip (gapLength cs + 5)).rest = rest := by
                  rw [show gapLength cs + 5 = gapLength cs + 4 + 1 by omega, ← Place.skip_skip,
                    Place.skip_rest, hrest]; rfl
                have hcond := run_condition (p.skip (gapLength cs + 5))
                rw [run_all_cons, hnext] at hcond
                simp only [if_pos hc, Place.skip_skip]
                rw [hcond, Option.map_map]
                have hdrop : p.rest.drop (gapLength cs + 5) = rest := by
                  rw [← Place.skip_rest, hnext]
                simp only [Function.comp_def, hdrop, Place.skip_eq_marked, Place.marked_marked,
                  Place.marked_groups, Nat.add_assoc]
              · rw [if_neg hc]
                simp [hc]

/-! ## Inside a tag

Two tags overlap only if one begins inside the other, so what has to be known
of a tag is where in it another one may begin, and where in it one may end. -/

/-- A character that a word of a tag is made of. -/
def Plain (c : Char) : Prop := isBlank c = false ∧ c ≠ '%' ∧ c ≠ '>' ∧ c ≠ '<'

/-- No tag begins and none ends at the beginning of the text. -/
def Inner (cs : List Char) : Prop := cs.head? ≠ some '<' ∧ tagEnd? cs = none

theorem gapLength_eq_zero {c : Char} {cs : List Char} (hc : isBlank c = false) :
    gapLength (c :: cs) = 0 := by
  simp [gapLength, hc]

theorem gapLength_eq_one {c : Char} {cs : List Char} (hc : isBlank c = true) :
    gapLength (c :: cs) = 1 := by
  simp [gapLength, hc]

theorem inner_plain {c : Char} {cs : List Char} (hc : Plain c) : Inner (c :: cs) := by
  obtain ⟨hblank, hpercent, _, hopen⟩ := hc
  refine ⟨by simpa using hopen, ?_⟩
  simp [tagEnd?, gapLength_eq_zero hblank, afterPhrase?, Ne.symm hpercent]

theorem inner_blank {b c : Char} {cs : List Char} (hb : isBlank b = true) (hc : c ≠ '%') :
    Inner (b :: c :: cs) := by
  refine ⟨?_, ?_⟩
  · rintro ⟨⟩
    exact absurd hb (by decide)
  · simp [tagEnd?, gapLength_eq_one hb, afterPhrase?, Ne.symm hc]

theorem inner_percent {c : Char} {cs : List Char} (hc : c ≠ '>') : Inner ('%' :: c :: cs) := by
  refine ⟨by simp, ?_⟩
  simp [tagEnd?, gapLength_eq_zero (show isBlank '%' = false by decide), afterPhrase?,
    Ne.symm hc]

theorem gap_cases (cs : List Char) : (gapLength cs = 0 ∧ cs.drop (gapLength cs) = cs) ∨
    ∃ b rest, isBlank b = true ∧ cs = b :: rest ∧ gapLength cs = 1 := by
  cases cs with
  | nil => exact .inl ⟨rfl, rfl⟩
  | cons c rest =>
      cases hc : isBlank c with
      | false => exact .inl ⟨gapLength_eq_zero hc, by rw [gapLength_eq_zero hc]; rfl⟩
      | true => exact .inr ⟨c, rest, hc, rfl, gapLength_eq_one hc⟩

/-- Behind the first character of a tag and up to the end of its word, no tag
begins and none ends. -/
theorem inner_lead {cs word rest : List Char} {w : Char} (hword : ∀ c ∈ w :: word, Plain c)
    (hcs : cs.drop (gapLength cs) = w :: word ++ rest) {i : Nat}
    (hi : i < 1 + gapLength cs + (w :: word).length) : Inner (('%' :: cs).drop i) := by
  have hw := hword w (by simp)
  have hplain : ∀ {j : Nat}, j < (w :: word).length → Inner ((w :: word ++ rest).drop j) := by
    intro j hj
    rw [List.drop_append_of_le_length (Nat.le_of_lt hj), List.drop_eq_getElem_cons hj,
      List.cons_append]
    exact inner_plain (hword _ (List.getElem_mem hj))
  rcases gap_cases cs with ⟨hgap, hdrop⟩ | ⟨b, tail, hb, rfl, hgap⟩
  · rw [hdrop] at hcs
    subst hcs
    cases i with
    | zero => exact inner_percent hw.2.2.1
    | succ i => exact hplain (by omega)
  · rw [hgap] at hcs hi
    simp only [List.drop_succ_cons, List.drop_zero] at hcs
    subst hcs
    match i with
    | 0 =>
        refine inner_percent ?_
        rintro rfl
        exact absurd hb (by decide)
    | 1 => exact inner_blank hb hw.2.1
    | i + 2 => exact hplain (by omega)

theorem lineEnd_noOpen (cs : List Char) {i : Nat} (hi : i < lineEndLength cs) :
    cs[i]? ≠ some '<' := by
  unfold lineEndLength at hi
  split at hi
  · cases i with
    | zero => simp
    | succ i => omega
  · match i with
    | 0 => simp
    | 1 => simp
    | i + 2 => omega
  · omega

/-- What ends a tag takes two characters at least, and no tag begins in it. -/
theorem tagEnd?_spec {cs : List Char} {n : Nat} (h : tagEnd? cs = some n) :
    2 ≤ n ∧ ∀ i, i < n → cs[i]? ≠ some '<' := by
  obtain ⟨rest, hrest, rfl⟩ := Option.map_eq_some_iff.1 h
  rw [afterPhrase?_eq_some] at hrest
  have hclose : ∀ j, j < 2 + lineEndLength rest → (['%', '>'] ++ rest)[j]? ≠ some '<' := by
    intro j hj
    match j with
    | 0 => simp
    | 1 => simp
    | j + 2 => exact lineEnd_noOpen rest (by omega)
  refine ⟨by omega, fun i hi => ?_⟩
  rcases gap_cases cs with ⟨hgap, hdrop⟩ | ⟨b, tail, hb, rfl, hgap⟩
  · rw [hdrop] at hrest
    rw [hrest]
    exact hclose i (by omega)
  · rw [hgap] at hrest hi
    simp only [List.drop_succ_cons, List.drop_zero] at hrest
    subst hrest
    cases i with
    | zero =>
        rintro ⟨⟩
        exact absurd hb (by decide)
    | succ i => exact hclose i (by omega)

theorem firstEnd?_spec {cs : List Char} : ∀ {n m : Nat}, firstEnd? cs = some (n, m) →
    tagEnd? (cs.drop n) = some m ∧ ∀ i, i < n → tagEnd? (cs.drop i) = none := by
  induction cs with
  | nil => intro n m h; cases h
  | cons c cs ih =>
      intro n m h
      rw [firstEnd?] at h
      cases hend : tagEnd? (c :: cs) with
      | some k =>
          rw [hend] at h
          cases h
          exact ⟨hend, fun i hi => by omega⟩
      | none =>
          rw [hend, Option.map_none, Option.none_or] at h
          split at h
          · cases h
          · obtain ⟨e, he, heq⟩ := Option.map_eq_some_iff.1 h
            cases heq
            obtain ⟨hthere, hbefore⟩ := ih he
            refine ⟨hthere, fun i hi => ?_⟩
            cases i with
            | zero => exact hend
            | succ i => exact hbefore i (by omega)

/-- A condition takes a character at least, and a tag ends behind it but
nowhere in it behind its first character. -/
theorem conditionEnd?_spec {cs : List Char} {n m : Nat} (h : conditionEnd? cs = some (n, m)) :
    1 ≤ n ∧ tagEnd? (cs.drop n) = some m ∧
      ∀ i, 1 ≤ i → i < n → tagEnd? (cs.drop i) = none := by
  cases cs with
  | nil => cases h
  | cons c cs =>
      rw [conditionEnd?] at h
      split at h
      · cases h
      · obtain ⟨e, he, heq⟩ := Option.map_eq_some_iff.1 h
        cases heq
        obtain ⟨hthere, hbefore⟩ := firstEnd?_spec he
        refine ⟨by omega, hthere, fun i hi hn => ?_⟩
        cases i with
        | zero => omega
        | succ i => exact hbefore i (by omega)

/-- A tag that begins with the given word begins the text, and no word goes
on behind it. -/
def Leads (word cs : List Char) : Prop :=
  ∃ tail c rest, cs = ['<', '%'] ++ tail ∧ tail.drop (gapLength tail) = word ++ c :: rest ∧
    (isBlank c = true ∨ c = '%')

theorem Leads.common {v w cs : List Char} (hv : Leads v cs) (hw : Leads w cs) :
    ∃ rest rest', v ++ rest = w ++ rest' := by
  obtain ⟨tail, c, rest, rfl, hrest, _⟩ := hv
  obtain ⟨tail', c', rest', heq, hrest', _⟩ := hw
  cases List.append_cancel_left heq
  exact ⟨c :: rest, c' :: rest', hrest.symm.trans hrest'⟩

theorem tagEnd?_head {cs : List Char} {n : Nat} (h : tagEnd? cs = some n) :
    ∃ c rest, cs = c :: rest ∧ (isBlank c = true ∨ c = '%') := by
  obtain ⟨rest, hrest, _⟩ := Option.map_eq_some_iff.1 h
  rw [afterPhrase?_eq_some] at hrest
  rcases gap_cases cs with ⟨_, hdrop⟩ | ⟨b, tail, hb, rfl, _⟩
  · rw [hdrop] at hrest
    exact ⟨'%', '>' :: rest, hrest, .inr rfl⟩
  · exact ⟨b, tail, rfl, .inl hb⟩

theorem wordLength?_leads {word cs : List Char} {n : Nat} (h : wordLength? word cs = some n) :
    Leads word cs := by
  simp only [wordLength?, Option.bind_eq_bind, Option.bind_eq_some_iff,
    afterPhrase?_eq_some] at h
  obtain ⟨tail, hcs, rest, hrest, n, hend, _⟩ := h
  obtain ⟨c, rest, rfl, hc⟩ := tagEnd?_head hend
  exact ⟨tail, c, rest, hcs, hrest, hc⟩

theorem openingLengths?_leads {cs : List Char} {e : Nat × Nat × Nat}
    (h : openingLengths? cs = some e) : Leads ['i', 'f'] cs := by
  simp only [openingLengths?, Option.bind_eq_bind, Option.bind_eq_some_iff,
    afterPhrase?_eq_some] at h
  obtain ⟨tail, hcs, rest, hrest, h⟩ := h
  cases rest with
  | nil => cases h
  | cons c rest =>
      simp only [] at h
      split at h
      · next hc => exact ⟨tail, c, rest, hcs, hrest, .inl hc⟩
      · cases h

/-- A tag of one word: from its second character up to its end, which is
`m` characters behind its beginning, no tag begins and none ends. -/
theorem wordLength?_spec {word cs : List Char} {w : Char} {n : Nat}
    (hword : ∀ c ∈ w :: word, Plain c) (h : wordLength? (w :: word) cs = some n) :
    ∃ m k, 1 ≤ m ∧ n = m + k ∧ tagEnd? (cs.drop m) = some k ∧
      ∀ i, 1 ≤ i → i < m → Inner (cs.drop i) := by
  simp only [wordLength?, Option.bind_eq_bind, Option.bind_eq_some_iff, Option.pure_def,
    Option.some.injEq, afterPhrase?_eq_some] at h
  obtain ⟨tail, rfl, rest, hrest, k, hk, rfl⟩ := h
  refine ⟨2 + gapLength tail + (w :: word).length, k, by omega, rfl, ?_, fun i hi hm => ?_⟩
  · rw [show 2 + gapLength tail + (w :: word).length =
      2 + (gapLength tail + (w :: word).length) by omega, ← List.drop_drop, ← List.drop_drop]
    simp only [List.cons_append, List.nil_append, List.drop_succ_cons, List.drop_zero]
    rw [hrest, List.drop_left]
    exact hk
  · obtain ⟨i, rfl⟩ : ∃ j, i = j + 1 := ⟨i - 1, by omega⟩
    exact inner_lead hword hrest (by omega)

/-- An opening tag: no tag begins in front of its condition, and none ends in
the condition behind its first character. -/
theorem openingLengths?_spec {cs : List Char} {h n m : Nat}
    (hcs : openingLengths? cs = some (h, n, m)) :
    1 ≤ n ∧ tagEnd? (cs.drop (h + n)) = some m ∧
      (∀ i, 1 ≤ i → i < h → cs[i]? ≠ some '<') ∧
      ∀ i, 1 ≤ i → i < n → tagEnd? (cs.drop (h + i)) = none := by
  simp only [openingLengths?, Option.bind_eq_bind, Option.bind_eq_some_iff,
    afterPhrase?_eq_some] at hcs
  obtain ⟨tail, rfl, rest, hrest, hcs⟩ := hcs
  cases rest with
  | nil => cases hcs
  | cons c rest =>
      simp only [] at hcs
      split at hcs
      · next hc =>
          obtain ⟨e, he, heq⟩ := Option.map_eq_some_iff.1 hcs
          cases heq
          obtain ⟨h1, hthere, hbefore⟩ := conditionEnd?_spec he
          have hdrop : ∀ j, (['<', '%'] ++ tail).drop (gapLength tail + 5 + j) = rest.drop j := by
            intro j
            rw [show gapLength tail + 5 + j = 2 + (gapLength tail + (3 + j)) by omega,
              ← List.drop_drop, ← List.drop_drop]
            simp only [List.cons_append, List.nil_append, List.drop_succ_cons, List.drop_zero]
            rw [hrest, ← List.drop_drop]
            rfl
          refine ⟨h1, by rw [hdrop]; exact hthere, fun i hi hlt => ?_,
            fun i hi hlt => by rw [hdrop]; exact hbefore i hi hlt⟩
          have hplain : ∀ c ∈ ['i', 'f'], Plain c := by
            intro c hmem
            simp only [List.mem_cons, List.not_mem_nil, or_false] at hmem
            rcases hmem with rfl | rfl <;> exact ⟨by decide, by decide, by decide, by decide⟩
          obtain ⟨i, rfl⟩ : ∃ j, i = j + 1 := ⟨i - 1, by omega⟩
          by_cases hlead : i < gapLength tail + 3
          · have hinner := (inner_lead hplain hrest (i := i) (by simp; omega)).1
            rwa [List.head?_drop] at hinner
          · obtain rfl : i = gapLength tail + 3 := by omega
            have hbehind : (['<', '%'] ++ tail)[gapLength tail + 3 + 1]? = some c := by
              have hdropped := congrArg (·[2]?) hrest
              simp only [List.getElem?_drop] at hdropped
              simpa [Nat.add_assoc] using hdropped
            rw [hbehind]
            rintro ⟨⟩
            exact absurd hc (by decide)
      · cases hcs

/-! ## Tags that are there

The lengths of a tag whose text is known, and the texts in which none ends. -/

theorem tagEnd?_closer (rest : List Char) :
    tagEnd? (' ' :: '%' :: '>' :: rest) = some (3 + lineEndLength rest) := by
  rw [tagEnd?, gapLength_eq_one (by decide)]
  rfl

/-- No tag ends inside a text without `%>`, if what follows begins with
neither of the two characters. -/
theorem tagEnd?_inside {cs tail : List Char} (hcs : ¬ ['%', '>'] <:+: cs)
    (htail : ∀ c ∈ tail.head?, c ≠ '%' ∧ c ≠ '>') {i : Nat} (hi : i < cs.length) :
    tagEnd? ((cs ++ tail).drop i) = none := by
  cases hend : tagEnd? ((cs ++ tail).drop i) with
  | none => rfl
  | some n =>
      obtain ⟨rest, hrest, _⟩ := Option.map_eq_some_iff.1 hend
      rw [afterPhrase?_eq_some, List.drop_drop] at hrest
      have hgap : gapLength ((cs ++ tail).drop i) ≤ 1 := by
        rcases gap_cases ((cs ++ tail).drop i) with ⟨h, _⟩ | ⟨_, _, _, _, h⟩ <;> omega
      generalize hj : i + gapLength ((cs ++ tail).drop i) = j at hrest
      -- The two characters lie in the text, across its end, or behind it.
      rcases Nat.lt_trichotomy (j + 1) cs.length with hlt | heq | hgt
      · refine absurd ⟨cs.take j, cs.drop (j + 2), ?_⟩ hcs
        rw [List.drop_append_of_le_length (by omega), List.drop_eq_getElem_cons (by omega),
          List.drop_eq_getElem_cons (by omega)] at hrest
        simp only [List.cons_append, List.nil_append, List.cons.injEq] at hrest
        rw [← hrest.1, ← hrest.2.1, List.append_assoc]
        simp only [List.cons_append, List.nil_append]
        rw [← List.drop_eq_getElem_cons, ← List.drop_eq_getElem_cons, List.take_append_drop]
      · rw [List.drop_append_of_le_length (by omega), List.drop_eq_getElem_cons (by omega), heq,
          List.drop_length] at hrest
        simp only [List.cons_append, List.nil_append, List.cons.injEq] at hrest
        exact absurd rfl (htail '>' (by rw [hrest.2]; rfl)).2
      · obtain rfl : j = cs.length := by omega
        rw [List.drop_left] at hrest
        exact absurd rfl (htail '%' (by rw [hrest]; rfl)).1

theorem firstEnd?_append {tail : List Char} {m : Nat} (htail : tagEnd? tail = some m) :
    ∀ {cs : List Char}, '\n' ∉ cs → (∀ i, i < cs.length → tagEnd? ((cs ++ tail).drop i) = none) →
      firstEnd? (cs ++ tail) = some (cs.length, m) := by
  intro cs
  induction cs with
  | nil =>
      intro _ _
      cases tail with
      | nil => cases htail
      | cons c tail =>
          rw [List.nil_append, firstEnd?, htail]
          rfl
  | cons c cs ih =>
      intro hline hinside
      have hhere : tagEnd? (c :: (cs ++ tail)) = none := hinside 0 (by simp)
      rw [List.mem_cons, not_or] at hline
      rw [List.cons_append, firstEnd?, hhere, if_neg (Ne.symm hline.1), ih hline.2]
      · rfl
      · intro i hi
        exact hinside (i + 1) (by simpa using hi)

theorem openingLengths?_printed {cs : List Char} (rest : List Char) (hne : cs ≠ [])
    (hline : '\n' ∉ cs) (hcs : ¬ ['%', '>'] <:+: cs) :
    openingLengths? (['<', '%', ' ', 'i', 'f', ' '] ++ cs ++ [' ', '%', '>'] ++ rest) =
      some (6, cs.length, 3 + lineEndLength rest) := by
  cases cs with
  | nil => exact absurd rfl hne
  | cons c cs =>
      have hinside : ∀ i, i < cs.length →
          tagEnd? ((cs ++ ' ' :: '%' :: '>' :: rest).drop i) = none := by
        intro i hi
        have hlt : i + 1 < (c :: cs).length := by simpa using hi
        exact tagEnd?_inside hcs (by simp) hlt
      rw [List.mem_cons, not_or] at hline
      have hfirst := firstEnd?_append (tagEnd?_closer rest) hline.2 hinside
      have hlead : openingLengths? (['<', '%', ' ', 'i', 'f', ' '] ++ (c :: cs) ++
          [' ', '%', '>'] ++ rest) =
          (conditionEnd? (c :: (cs ++ ' ' :: '%' :: '>' :: rest))).map fun e => (6, e.1, e.2) := by
        simp [openingLengths?, afterPhrase?, gapLength, show isBlank ' ' = true by decide]
      rw [hlead, conditionEnd?, if_neg (Ne.symm hline.1), hfirst]
      rfl

theorem wordLength?_printed {word : List Char} (rest : List Char) :
    wordLength? word (['<', '%', ' '] ++ word ++ [' ', '%', '>'] ++ rest) =
      some (6 + word.length + lineEndLength rest) := by
  have hblank : gapLength (' ' :: (word ++ ' ' :: '%' :: '>' :: rest)) = 1 :=
    gapLength_eq_one (by decide)
  have hopen : afterPhrase? ['<', '%'] (['<', '%', ' '] ++ word ++ [' ', '%', '>'] ++ rest) =
      some (' ' :: (word ++ ' ' :: '%' :: '>' :: rest)) := by
    simp [afterPhrase?]
  have hword : afterPhrase? word (word ++ ' ' :: '%' :: '>' :: rest) =
      some (' ' :: '%' :: '>' :: rest) := afterPhrase?_eq_some.2 rfl
  simp only [wordLength?, hopen, Option.bind_eq_bind, Option.bind_some, hblank, List.drop_succ_cons,
    List.drop_zero, hword, tagEnd?_closer, Option.pure_def, Option.some.injEq]
  omega

end Stencil.TagPattern
