import Stencil.Proofs.Template.OnePass
import Stencil.Proofs.Template.Printed

/-!
# The block tags of a printed template

What the first two stages find in a printed template: no comment, and just
the block tags that were printed, each with the line end behind it that
belongs to it. Both are found by going over the pieces one by one. A piece
that is no block tag holds `<` at its beginning at most, and what begins
there is not taken for a block tag because a name is no reserved word.
-/

namespace Stencil.Printed

open Stencil.Regex Stencil.Text Stencil.TagPattern Stencil.BlockTag

/-! ## Names -/

theorem isNameChar_toNat {c : Char} (h : isNameChar c = true) :
    (65 ≤ c.toNat ∧ c.toNat ≤ 90) ∨ (97 ≤ c.toNat ∧ c.toNat ≤ 122) ∨
      (48 ≤ c.toNat ∧ c.toNat ≤ 57) ∨ c.toNat = 95 := by
  simp only [isNameChar, CharClass.holds, nameChars, List.any_cons, Member.holds, List.any_nil,
    Bool.or_false, Bool.bne_false, Bool.or_eq_true, Bool.and_eq_true, decide_eq_true_eq, beq_iff_eq]
    at h
  rcases h with ⟨h, h'⟩ | ⟨h, h'⟩ | ⟨h, h'⟩ | rfl
  · exact .inl ⟨h, h'⟩
  · exact .inr (.inl ⟨h, h'⟩)
  · exact .inr (.inr (.inl ⟨h, h'⟩))
  · exact .inr (.inr (.inr rfl))

theorem isNameChar_notBlank {c : Char} (h : isNameChar c = true) : isBlank c = false := by
  have hrange := isNameChar_toNat h
  simp only [isBlank, Bool.or_eq_false_iff, Bool.and_eq_false_iff, decide_eq_false_iff_not,
    beq_eq_false_iff_ne]
  omega

theorem isNameChar_alphanum {c : Char} (h : isNameChar c = true) :
    c.isAlphanum = true ∨ c = '_' := by
  show (c.isUpper || c.isLower || c.isDigit) = true ∨ c = '_'
  rcases isNameChar_toNat h with h | h | h | h
  · have hupper : c.isUpper = true := decide_eq_true h
    simp [hupper]
  · have hlower : c.isLower = true :=
      Bool.and_eq_true_iff.2 ⟨decide_eq_true h.1, decide_eq_true h.2⟩
    simp [hlower]
  · simp [Char.isDigit_iff_toNat.2 h]
  · exact .inr (Char.toNat_inj.1 h)

theorem isWordChar_of_nameChar {c : Char} (h : isNameChar c = true) : isWordChar c = true := by
  have hrange := isNameChar_toNat h
  have hascii : c.toNat < 0x80 := by omega
  rw [isWordChar, if_pos hascii, Bool.or_eq_true, beq_iff_eq]
  exact isNameChar_alphanum h

theorem isBlank_notWord {c : Char} (h : isBlank c = true) : isWordChar c = false := by
  have hascii : ∀ n < 0x80, isBlank (Char.ofNat n) = true → isWordChar (Char.ofNat n) = false := by
    decide
  have hwide : ∀ n ∈ List.range' 0x2000 11 ++
      [0x85, 0xA0, 0x1680, 0x2028, 0x2029, 0x202F, 0x205F, 0x3000],
      inClass wordPoints n = false := by decide +kernel
  by_cases hlt : c.toNat < 0x80
  · have hdecided := hascii c.toNat hlt
    rw [Char.ofNat_toNat] at hdecided
    exact hdecided h
  · rw [isWordChar, if_neg hlt]
    simp only [isBlank, Bool.or_eq_true, Bool.and_eq_true, decide_eq_true_eq, beq_iff_eq] at h
    refine hwide c.toNat ?_
    simp only [List.mem_append, List.mem_range'_1, List.mem_cons, List.not_mem_nil, or_false]
    omega

/-- A word that is not the one that was printed can be found in front of a
text that goes on with neither only if it goes on itself. -/
theorem word_split {name word tail rest : List Char} (hword : ∀ c ∈ word, isNameChar c = true)
    (hne : name ≠ word) (htail : ∀ c ∈ tail.head?, isNameChar c = false)
    (h : name ++ tail = word ++ rest) :
    ∃ d more, name = word ++ d :: more ∧ rest = d :: (more ++ tail) := by
  rcases List.append_eq_append_iff.1 h with ⟨more, hname, htail'⟩ | ⟨more, hname, hrest⟩
  · cases more with
    | nil => exact absurd (by rw [hname, List.append_nil]) hne
    | cons d more =>
        have hd := htail d (by rw [htail']; rfl)
        rw [hword d (by rw [hname]; simp)] at hd
        cases hd
  · cases more with
    | nil => exact absurd (by rw [hname, List.append_nil]) hne
    | cons d more => exact ⟨d, more, hname, hrest⟩

theorem isNameChar_reserved {word : List Char} (h : word ∈ reservedWords) :
    ∀ c ∈ word, isNameChar c = true := by
  simp only [reservedWords, List.mem_cons, List.not_mem_nil, or_false] at h
  rcases h with rfl | rfl | rfl <;> exact List.all_eq_true.1 rfl

theorem word_mem_reserved (kind : TagKind) : word kind ∈ reservedWords := by
  cases kind <;> decide

/-! ## Pieces -/

/-- What is printed behind the name of a variable tag. -/
def Slot.back (s : Slot) : List Char :=
  (s.default.map (·.print)).getD [] ++ ((s.filter.map (·.print)).getD [] ++ [' ', '%', '>'])

theorem Slot.print_eq (s : Slot) : s.print = ['<', '%', ' '] ++ (s.name.chars ++ s.back) := by
  simp only [Slot.print, Slot.back, List.append_assoc]

theorem Slot.back_head (s : Slot) (rest : List Char) :
    ∀ c ∈ (s.back ++ rest).head?, isNameChar c = false := by
  intro c hc
  unfold Slot.back at hc
  rcases hdefault : s.default with _ | d
  · rcases hfilter : s.filter with _ | f
    · simp [hdefault, hfilter] at hc
      rw [← hc]
      decide
    · simp [hdefault, hfilter, FilterUse.print] at hc
      rw [← hc]
      decide
  · cases d <;> simp [hdefault, Default.print] at hc <;> rw [← hc] <;> decide

theorem Word.noOpen (w : Word) : '<' ∉ w.chars := fun h =>
  absurd (w.plain _ h) (by decide)

theorem Default.noOpen (d : Default) : '<' ∉ d.print := by
  cases d with
  | quoted q =>
      have hquote : '<' ≠ q.quote := by
        rintro h
        rcases q.isQuote with hq | hq <;> rw [hq] at h <;> exact absurd h (by decide)
      simp [Default.print, q.plain, hquote]
  | bare t =>
      simp only [Default.print, List.mem_cons, not_or]
      exact ⟨by decide, fun h => absurd (t.plain _ h) (by decide)⟩

theorem FilterUse.noOpen (f : FilterUse) : '<' ∉ f.print := by
  rcases hargs : f.args with _ | a
  · simp [FilterUse.print, hargs, f.name.noOpen]
  · simp [FilterUse.print, hargs, f.name.noOpen, ArgumentText.print, a.plain]

/-- A variable tag holds `<` only at its beginning. -/
theorem Slot.noOpen (s : Slot) : '<' ∉ ['%', ' '] ++ (s.name.chars ++ s.back) := by
  have hback : '<' ∉ s.back := by
    rcases hdefault : s.default with _ | d <;> rcases hfilter : s.filter with _ | f <;>
      simp [Slot.back, hdefault, hfilter, Default.noOpen, FilterUse.noOpen]
  simp [s.name.noOpen, hback]

def Mark.kind : Mark → TagKind
  | .opening _ => .opening
  | .otherwise => .otherwise
  | .closing => .closing

def Mark.condition : Mark → Option String
  | .opening q => some (String.ofList (trim q.chars))
  | _ => none

theorem Question.ne_nil (q : Question) : q.chars ≠ [] := by
  intro h
  obtain ⟨c, hc⟩ := q.accepted
  rw [h] at hc
  cases hc

/-! ## Where nothing begins -/

theorem tagAt?_eq_none {p : Place} (h : p.rest.head? ≠ some '<') :
    tagAt? .standard p = none := by
  cases htag : tagAt? .standard p with
  | none => rfl
  | some tag =>
      obtain ⟨kind, hkind⟩ := tagAt?_eq_some.1 htag
      obtain ⟨_, _, _, _, _, hshape⟩ := tagHere?_shape hkind
      exact absurd hshape.head h

theorem tagAt?_slot {p : Place} {s : Slot} {rest : List Char} (hrest : p.rest = s.print ++ rest) :
    tagAt? .standard p = none := by
  cases htag : tagAt? .standard p with
  | none => rfl
  | some tag =>
      obtain ⟨kind, hkind⟩ := tagAt?_eq_some.1 htag
      obtain ⟨_, _, _, _, _, hshape⟩ := tagHere?_shape hkind
      obtain ⟨tail, c, more, hcs, htail, hc⟩ := hshape.leads
      rw [hrest, Slot.print_eq] at hcs
      simp only [List.cons_append, List.nil_append, List.append_assoc, List.cons.injEq,
        true_and] at hcs
      rw [← hcs, gapLength_eq_one (by decide), List.drop_succ_cons, List.drop_zero] at htail
      have hne : s.name.chars ≠ word kind := fun heq =>
        s.free (by rw [heq]; exact word_mem_reserved kind)
      obtain ⟨d, front, hname, hd⟩ := word_split (isNameChar_reserved (word_mem_reserved kind)) hne
        (s.back_head rest) htail
      cases hd
      have hnameChar : isNameChar c = true := s.name.plain c (by rw [hname]; simp)
      rcases hc with hblank | rfl
      · rw [isNameChar_notBlank hnameChar] at hblank
        cases hblank
      · exact absurd hnameChar (by decide)

/-! ## Where a block tag begins -/

theorem tagAt?_mark {p : Place} {m : Mark} {e : LineEnd} {rest : List Char}
    (hrest : p.rest = m.print ++ (e.print ++ rest))
    (hline : lineEndLength (e.print ++ rest) = e.print.length) :
    tagAt? .standard p =
      some ⟨m.kind, p.pos, p.pos + (m.print ++ e.print).length, m.condition⟩ := by
  refine tagAt?_eq_some.2 ⟨m.kind, ?_⟩
  cases m with
  | opening q =>
      have hlengths : openingLengths? p.rest =
          some (6, q.chars.length, 3 + lineEndLength (e.print ++ rest)) := by
        rw [hrest]
        exact openingLengths?_printed (e.print ++ rest) q.ne_nil q.inLine q.inside
      have htake : (p.rest.drop 6).take q.chars.length = q.chars := by
        rw [hrest]
        simp [Mark.print]
      rw [Mark.kind, tagHere?_opening, hlengths, hline, Option.map_some, htake]
      simp [Mark.condition, Mark.print]
      omega
  | otherwise =>
      have hlength : wordLength? (word .otherwise) p.rest =
          some (6 + (word .otherwise).length + lineEndLength (e.print ++ rest)) := by
        rw [hrest]
        exact wordLength?_printed (e.print ++ rest)
      rw [Mark.kind, tagHere?_otherwise, hlength, hline]
      simp [Mark.condition, Mark.print, word]
      omega
  | closing =>
      have hlength : wordLength? (word .closing) p.rest =
          some (6 + (word .closing).length + lineEndLength (e.print ++ rest)) := by
        rw [hrest]
        exact wordLength?_printed (e.print ++ rest)
      rw [Mark.kind, tagHere?_closing, hlength, hline]
      simp [Mark.condition, Mark.print, word]
      omega

/-! ## Neighbours -/

/-- A text that begins with no line end and goes on with no line feed. -/
theorem lineEndLength_plain {cs rest : List Char} (hne : cs ≠ []) (hcs : ¬ BeginsLine cs)
    (hrest : ∀ c ∈ rest.head?, c ≠ '\n') : lineEndLength (cs ++ rest) = 0 := by
  unfold lineEndLength
  split
  · next tail heq =>
      cases cs with
      | nil => exact absurd rfl hne
      | cons c cs =>
          cases heq
          exact absurd (.inl ⟨cs, rfl⟩) hcs
  · next tail heq =>
      cases cs with
      | nil => exact absurd rfl hne
      | cons c cs =>
          cases cs with
          | nil =>
              obtain ⟨_, rfl⟩ := List.cons.inj heq
              exact absurd rfl (hrest '\n' rfl)
          | cons d cs =>
              cases heq
              exact absurd (.inr ⟨cs, rfl⟩) hcs
  · rfl

theorem Slot.head (s : Slot) (rest : List Char) : (s.print ++ rest).head? = some '<' := by
  rw [Slot.print_eq]
  rfl

theorem Mark.head (m : Mark) (rest : List Char) : (m.print ++ rest).head? = some '<' := by
  cases m <;> rfl

theorem head_behind_text {t : PlainText} {ps : List Piece}
    (h : (Piece.leaf (.text t) :: ps).IsChain Apart) :
    ∀ c ∈ (ps.flatMap Piece.print).head?, c = '<' := by
  intro c hc
  cases ps with
  | nil => cases hc
  | cons next ps =>
      rw [List.flatMap_cons] at hc
      match next with
      | .leaf (.text t') => exact absurd (List.isChain_cons_cons.1 h).1 id
      | .leaf (.slot s) =>
          have hhead : (s.print ++ ps.flatMap Piece.print).head? = some c := hc
          rw [Slot.head] at hhead
          exact (Option.some.inj hhead).symm
      | .mark m e =>
          have hhead : (m.print ++ e.print ++ ps.flatMap Piece.print).head? = some c := hc
          rw [List.append_assoc, Mark.head] at hhead
          exact (Option.some.inj hhead).symm

/-- The line end that was printed behind a block tag is the one that is found
there. -/
theorem lineEndLength_behind {m : Mark} {e : LineEnd} {ps : List Piece}
    (h : (Piece.mark m e :: ps).IsChain Apart) :
    lineEndLength (e.print ++ ps.flatMap Piece.print) = e.print.length := by
  cases e with
  | lf | crlf => rfl
  | none =>
      cases ps with
      | nil => rfl
      | cons next ps =>
          obtain ⟨hapart, htail⟩ := List.isChain_cons_cons.1 h
          have hopen : ∀ {cs : List Char}, cs.head? = some '<' → lineEndLength cs = 0 := by
            intro cs hcs
            cases cs with
            | nil => cases hcs
            | cons c cs => cases hcs; rfl
          rw [List.flatMap_cons]
          match next with
          | .leaf (.text t) =>
              show lineEndLength (t.chars ++ _) = 0
              refine lineEndLength_plain t.nonempty hapart fun c hc => ?_
              rw [head_behind_text htail c hc]
              decide
          | .leaf (.slot s) => exact hopen (s.head _)
          | .mark m e =>
              refine hopen ?_
              show (m.print ++ e.print ++ _).head? = _
              rw [List.append_assoc, Mark.head]

/-! ## The block tags -/

/-- The block tags among the pieces that are printed from `pos` on. -/
def blockTags : (pos : Nat) → List Piece → List BlockTag
  | _, [] => []
  | pos, .leaf l :: ps => blockTags (pos + l.print.length) ps
  | pos, .mark m e :: ps =>
      let stop := pos + (m.print ++ e.print).length
      ⟨m.kind, pos, stop, m.condition⟩ :: blockTags stop ps

theorem Leaf.noTag {l : Leaf} {rest : List Char} {p : Place} (hrest : p.rest = l.print ++ rest) :
    ∀ n, n < l.print.length → tagAt? .standard (p.skip n) = none := by
  intro n hn
  have hhead : (p.skip n).rest.head? = l.print[n]? := by
    rw [Place.skip_rest, hrest, List.drop_append_of_le_length (Nat.le_of_lt hn),
      List.head?_append, List.head?_drop, List.getElem?_eq_getElem hn]
    rfl
  cases l with
  | text t =>
      refine tagAt?_eq_none ?_
      rw [hhead]
      exact fun heq => t.plain (List.mem_of_getElem? heq)
  | slot s =>
      cases n with
      | zero =>
          rw [Place.skip_zero]
          exact tagAt?_slot hrest
      | succ n =>
          refine tagAt?_eq_none ?_
          rw [hhead]
          intro heq
          have hinner : (['%', ' '] ++ (s.name.chars ++ s.back))[n]? = some '<' := by
            rw [← heq, Leaf.print, Slot.print_eq]
            rfl
          exact s.noOpen (List.mem_of_getElem? hinner)

theorem sweep_tagAt? : ∀ {ps : List Piece} {p : Place} {past : Nat}, ps.IsChain Apart →
    p.groups = [] → p.rest = ps.flatMap Piece.print → past ≤ p.pos →
    sweep BlockTag.stop (tagAt? .standard) past p = blockTags p.pos ps := by
  intro ps
  induction ps with
  | nil => intro p past _ _ hrest _; exact sweep_nil hrest
  | cons piece ps ih =>
      intro p past hchain hgroups hrest hpast
      rw [List.flatMap_cons] at hrest
      have hlength : piece.print.length ≤ p.rest.length := by
        rw [hrest, List.length_append]
        omega
      have hnext : (p.skip piece.print.length).rest = ps.flatMap Piece.print := by
        rw [Place.skip_rest, hrest, List.drop_left]
      cases piece with
      | leaf l =>
          rw [sweep_pass hgroups hlength (Leaf.noTag hrest), blockTags]
          exact ih hchain.tail hgroups hnext (by rw [Place.skip_pos]; omega)
      | mark m e =>
          have htag : tagAt? .standard p = _ := tagAt?_mark (by rw [hrest, ← List.append_assoc]; rfl)
            (lineEndLength_behind hchain)
          have hpos : 0 < (m.print ++ e.print).length := by
            cases m <;> simp [Mark.print]
          rw [sweep_take hgroups hpast htag rfl hpos hlength, blockTags]
          congr 1
          exact ih hchain.tail hgroups hnext (Nat.le_refl _)

/-- The block tags of a printed template are those that were printed. -/
theorem scan_print {ps : List Piece} (h : ps.IsChain Apart) :
    scan .standard .none (ps.flatMap Piece.print) = .ok (blockTags 0 ps) := by
  rw [scan_eq_onePass]
  exact congrArg _ (sweep_tagAt? h rfl rfl (Nat.le_refl 0))

/-! ## No comments -/

/-- Two characters found in a text of two parts lie in one of the parts or
across the place where they meet. -/
theorem pair_infix_append {a b : Char} {xs ys : List Char} (h : [a, b] <:+: xs ++ ys) :
    [a, b] <:+: xs ∨ [a, b] <:+: ys ∨ (xs.getLast? = some a ∧ ys.head? = some b) := by
  induction xs with
  | nil => exact .inr (.inl h)
  | cons x xs ih =>
      rw [List.cons_append, List.infix_cons_iff] at h
      rcases h with h | h
      · obtain ⟨rest, hrest⟩ := h
        cases xs with
        | nil =>
            cases hrest
            exact .inr (.inr ⟨rfl, rfl⟩)
        | cons y xs =>
            cases hrest
            exact .inl ⟨[], xs, rfl⟩
      · rcases ih h with hx | hy | ⟨hlast, hhead⟩
        · exact .inl (List.infix_cons hx)
        · exact .inr (.inl hy)
        · refine .inr (.inr ⟨?_, hhead⟩)
          cases xs with
          | nil => cases hlast
          | cons y xs => rwa [List.getLast?_cons_cons]

theorem noComment_of_notMem {cs : List Char} (h : '<' ∉ cs) : ¬ ['<', '#'] <:+: cs :=
  fun hin => h (hin.subset (by simp))

theorem Slot.noComment (s : Slot) : ¬ ['<', '#'] <:+: s.print := by
  rw [Slot.print_eq]
  intro h
  rcases List.infix_cons_iff.1 h with ⟨rest, hrest⟩ | h
  · cases hrest
  · exact noComment_of_notMem s.noOpen h

theorem Question.noComment (q : Question) : ¬ ['<', '#'] <:+: (Mark.opening q).print := by
  intro h
  rcases pair_infix_append h with h | h | ⟨_, h⟩
  · rcases pair_infix_append h with h | h | ⟨h, _⟩
    · exact absurd h (by decide)
    · exact q.uncommented h
    · exact absurd h (by decide)
  · exact absurd h (by decide)
  · exact absurd h (by decide)

theorem Slot.last (s : Slot) : s.print.getLast? = some '>' := by
  rw [Slot.print, List.getLast?_append]
  rfl

theorem Mark.last (m : Mark) : m.print.getLast? = some '>' := by
  cases m with
  | opening q =>
      rw [Mark.print, List.getLast?_append]
      rfl
  | otherwise | closing => rfl

/-- No comment begins in a piece, and none across its end. -/
theorem Piece.noComment (piece : Piece) :
    ¬ ['<', '#'] <:+: piece.print ∧ piece.print.getLast? ≠ some '<' := by
  match piece with
  | .leaf (.text t) =>
      exact ⟨noComment_of_notMem t.plain, fun h => t.plain (List.mem_of_getLast? h)⟩
  | .leaf (.slot s) =>
      refine ⟨s.noComment, ?_⟩
      rw [Piece.print, Leaf.print, s.last]
      decide
  | .mark m e =>
      have hend : ∀ e : LineEnd, '<' ∉ e.print := by intro e; cases e <;> decide
      have hmark : ¬ ['<', '#'] <:+: m.print := by
        cases m with
        | opening q => exact q.noComment
        | otherwise | closing => decide
      refine ⟨fun h => ?_, ?_⟩
      · rcases pair_infix_append h with h | h | ⟨h, _⟩
        · exact hmark h
        · exact noComment_of_notMem (hend e) h
        · rw [m.last] at h
          exact absurd h (by decide)
      · rw [Piece.print, List.getLast?_append, m.last]
        cases e <;> decide

theorem noComment_print (ps : List Piece) : ¬ ['<', '#'] <:+: ps.flatMap Piece.print := by
  induction ps with
  | nil => decide
  | cons piece ps ih =>
      obtain ⟨hin, hlast⟩ := piece.noComment
      rw [List.flatMap_cons]
      intro h
      rcases pair_infix_append h with h | h | ⟨h, _⟩
      · exact hin h
      · exact ih h
      · exact hlast h

/-- No comment is found where none begins. -/
theorem erase_comments {cs : List Char} (h : ¬ ['<', '#'] <:+: cs) :
    standardComment.regex.erase cs = cs := by
  have hnone : ∀ p : Place, ¬ ['<', '#'] <+: p.rest → standardComment.regex.matchHere? p = none := by
    intro p hp
    have hsplit : ∃ rest, standardComment.regex = .all (phrase ['<', '#'] ++ rest) := ⟨_, rfl⟩
    obtain ⟨rest, hsplit⟩ := hsplit
    have hopen : afterPhrase? ['<', '#'] p.rest = none := by
      cases hafter : afterPhrase? ['<', '#'] p.rest with
      | none => rfl
      | some tail => exact absurd ⟨tail, (afterPhrase?_eq_some.1 hafter).symm⟩ hp
    rw [matchHere?, matchAt?_true, hsplit, run_all_append, run_phrase, hopen]
    rfl
  have hconsumes : standardComment.regex.Consumes := consumes_one _ _
  have hmatches : standardComment.regex.allMatches cs = [] := by
    rw [allMatches_eq_sweep hconsumes]
    refine sweep_eq_nil rfl fun m => hnone _ fun hp => h ?_
    exact hp.isInfix.trans (List.drop_suffix m cs).isInfix
  rw [erase, hmatches]
  rfl

end Stencil.Printed
