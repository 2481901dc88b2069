import Stencil.Proofs.Regex.Sweep
import Stencil.Proofs.Template.Spans
import Stencil.Proofs.Template.TagShape

/-!
# Three passes are one

Block tags are looked for sort by sort, and the finds are put in order
afterwards. Each pass goes on behind its own finds without knowing of the
others, so it can step over the beginning of a tag that the merged list
would have had room for. With the standard syntax nothing is lost by that,
and this module says so: the tags of a text are those that one scan from
left to right finds, which looks for all three sorts at once and goes on
behind every find.

* **What overlaps.** Only an opening tag has room for the beginning of
  another tag, in its condition. A closing tag or an `else` that begins there
  ends where the opening tag ends, and an opening tag is of the same sort.
  `Orderly` says this of any way to find tags.

* **The three passes, woven.** `weave` is one recursion over the text that
  keeps the ends of the three passes apart. It finds what the passes find,
  in order, so it is what sorting yields.

* **Dropping overlaps.** `separate_weave` is the simulation: at every place,
  either a pass is still behind its last find exactly because the one scan
  is, or what the pass finds there ends before the one scan goes on.
-/

namespace Stencil.BlockTag

open Stencil.Regex Stencil.Text

/-! ## Tags at a place -/

/-- The block tag of one sort that begins at a place. -/
def tagHere? (ps : Patterns) : TagKind → Place → Option BlockTag
  | .opening, p => (ps.ifTag.regex.matchHere? p).map fun m =>
      ⟨.opening, m.start, m.stop, (m.group? "condition").map fun cs => String.ofList (trim cs)⟩
  | .otherwise, p => (ps.elseTag.regex.matchHere? p).map fun m =>
      ⟨.otherwise, m.start, m.stop, none⟩
  | .closing, p => (ps.endifTag.regex.matchHere? p).map fun m =>
      ⟨.closing, m.start, m.stop, none⟩

/-- The block tag of any sort that begins at a place. -/
def tagAt? (ps : Patterns) (p : Place) : Option BlockTag :=
  (tagHere? ps .opening p).or ((tagHere? ps .otherwise p).or (tagHere? ps .closing p))

/-- The block tags that one scan from left to right finds: the leftmost tag
of any sort, and again the leftmost one at or behind its end. -/
def onePass (ps : Patterns) (cs : List Char) : List BlockTag :=
  sweep BlockTag.stop (tagAt? ps) 0 (Place.ofText cs)

/-! ## The three passes, woven -/

section

variable {find : Place → Option BlockTag} {ends : TagKind → Nat} {p : Place}

def ofKind (find : Place → Option BlockTag) (kind : TagKind) (p : Place) : Option BlockTag :=
  (find p).filter fun tag => tag.kind = kind

/-- The ends of the three passes behind a find. -/
def passed (ends : TagKind → Nat) (tag : BlockTag) (kind : TagKind) : Nat :=
  if kind = tag.kind then tag.stop else ends kind

/-- The finds of three passes over a text in one recursion, where `ends` says
for each sort where its last find ended. -/
def weaveFrom (find : Place → Option BlockTag) : (ends : TagKind → Nat) →
    (before : Option Char) → (pos : Nat) → (rest : List Char) → List BlockTag
  | _, _, _, [] => []
  | ends, before, pos, c :: rest =>
      match find ⟨before, pos, c :: rest, []⟩ with
      | none => weaveFrom find ends (some c) (pos + 1) rest
      | some tag =>
          if pos < ends tag.kind then weaveFrom find ends (some c) (pos + 1) rest
          else tag :: weaveFrom find (passed ends tag) (some c) (pos + 1) rest

/-- The finds of three passes from a place on. -/
def weave (find : Place → Option BlockTag) (ends : TagKind → Nat) (p : Place) : List BlockTag :=
  weaveFrom find ends p.before p.pos p.rest

theorem weave_nil (hrest : p.rest = []) : weave find ends p = [] := by
  rw [weave, hrest, weaveFrom]

theorem weave_cons {c : Char} {cs : List Char} (hrest : p.rest = c :: cs)
    (hgroups : p.groups = []) : weave find ends p =
      match find p with
      | none => weave find ends (p.skip 1)
      | some tag =>
          if p.pos < ends tag.kind then weave find ends (p.skip 1)
          else tag :: weave find (passed ends tag) (p.skip 1) := by
  have hp : (⟨p.before, p.pos, c :: cs, []⟩ : Place) = p := by
    rw [← hrest, ← hgroups]
  simp only [weave, Place.skip_one hrest]
  rw [hrest, weaveFrom, hp]

/-- The finds of one sort in the woven passes are those of its own pass. -/
theorem filter_weave (kind : TagKind) (hgroups : p.groups = []) :
    (weave find ends p).filter (fun tag => tag.kind = kind) =
      sweep BlockTag.stop (ofKind find kind) (ends kind) p := by
  induction p using Place.along generalizing ends with
  | nil p hrest => rw [weave_nil hrest, sweep_nil hrest, List.filter_nil]
  | cons p c cs hrest ih =>
      have hnext : ∀ ends, (weave find ends (p.skip 1)).filter (·.kind = kind) =
          sweep BlockTag.stop (ofKind find kind) (ends kind) (p.skip 1) := fun _ => ih hgroups
      rw [weave_cons hrest hgroups, sweep_cons hrest hgroups, ofKind]
      cases hfind : find p with
      | none => simp only [hnext, Option.filter_none, ite_self]
      | some tag =>
          by_cases hkind : tag.kind = kind
          · subst hkind
            simp only [Option.filter_some, decide_true, if_true]
            by_cases hpast : p.pos < ends tag.kind
            · simp only [if_pos hpast, hnext]
            · simp [if_neg hpast, hnext, passed]
          · have hother : ∀ tags : List BlockTag, (tag :: tags).filter (·.kind = kind) =
                tags.filter (·.kind = kind) := fun tags => by simp [hkind]
            have hends : passed ends tag kind = ends kind := by
              rw [passed, if_neg (Ne.symm hkind)]
            simp only [Option.filter_some, hkind, decide_false, Bool.false_eq_true, if_false,
              ite_self]
            split
            · exact hnext ends
            · rw [hother, hnext, hends]

theorem filter_kinds_perm (tags : List BlockTag) :
    (tags.filter (·.kind = .opening) ++ (tags.filter (·.kind = .otherwise) ++
      tags.filter (·.kind = .closing))).Perm tags := by
  induction tags with
  | nil => exact .refl _
  | cons tag tags ih =>
      cases hkind : tag.kind with
      | opening => simpa [hkind] using ih
      | otherwise =>
          have hmiddle := List.perm_middle.trans (ih.cons tag)
          simpa [hkind] using hmiddle
      | closing =>
          rw [← List.append_assoc] at ih
          have hmiddle := List.perm_middle.trans (ih.cons tag)
          simpa [hkind] using hmiddle

theorem weave_perm (find : Place → Option BlockTag) (ends : TagKind → Nat)
    (hgroups : p.groups = []) :
    (sweep BlockTag.stop (ofKind find .opening) (ends .opening) p ++
      (sweep BlockTag.stop (ofKind find .otherwise) (ends .otherwise) p ++
        sweep BlockTag.stop (ofKind find .closing) (ends .closing) p)).Perm
      (weave find ends p) := by
  simp only [← filter_weave _ hgroups]
  exact filter_kinds_perm _

end

/-! ## Orderly finds -/

/-- Tags begin where they are found and take a character, and a tag that
begins inside another one is of the same sort or ends no later. -/
structure Orderly (find : Place → Option BlockTag) : Prop where
  start : ∀ {p tag}, find p = some tag → tag.start = p.pos
  stop : ∀ {p tag}, find p = some tag → p.pos < tag.stop
  inside : ∀ {p n tag inner}, find p = some tag → 1 ≤ n → p.pos + n < tag.stop →
    find (p.skip n) = some inner → inner.kind = tag.kind ∨ inner.stop ≤ tag.stop

section

variable {find : Place → Option BlockTag} (h : Orderly find)

include h

theorem Orderly.mem_weave {tag : BlockTag} {p : Place} {ends : TagKind → Nat}
    (hgroups : p.groups = []) (hmem : tag ∈ weave find ends p) : p.pos ≤ tag.start := by
  induction p using Place.along generalizing ends with
  | nil p hrest => rw [weave_nil hrest] at hmem; cases hmem
  | cons p c cs hrest ih =>
      have hnext : ∀ {ends}, tag ∈ weave find ends (p.skip 1) → p.pos ≤ tag.start := by
        intro ends hmem
        have hle := ih hgroups hmem
        rw [Place.skip_pos] at hle
        omega
      rw [weave_cons hrest hgroups] at hmem
      split at hmem
      · exact hnext hmem
      · next hfind =>
          split at hmem
          · exact hnext hmem
          · rcases List.mem_cons.1 hmem with rfl | hmem
            · exact Nat.le_of_eq (h.start hfind).symm
            · exact hnext hmem

/-- The woven passes find no two tags at the same place. -/
theorem Orderly.weave_sorted {p : Place} (ends : TagKind → Nat) (hgroups : p.groups = []) :
    (weave find ends p).Pairwise fun a b => a.start < b.start := by
  induction p using Place.along generalizing ends with
  | nil p hrest =>
      rw [weave_nil hrest]
      exact .nil
  | cons p c cs hrest ih =>
      rw [weave_cons hrest hgroups]
      split
      · exact ih ends hgroups
      · next tag hfind =>
          split
          · exact ih ends hgroups
          · refine .cons (fun later hmem => ?_) (ih _ hgroups)
            have hle := h.mem_weave (p := p.skip 1) hgroups hmem
            rw [Place.skip_pos] at hle
            rw [h.start hfind]
            omega

/-- Sorting what the three passes find yields the woven passes. -/
theorem Orderly.mergeSort_eq_weave {p : Place} {ends : TagKind → Nat} {tags : List BlockTag}
    (hgroups : p.groups = []) (hperm : tags.Perm (weave find ends p)) :
    tags.mergeSort (fun a b => a.start ≤ b.start) = weave find ends p := by
  have hsorted := h.weave_sorted ends hgroups
  have hmerged : (tags.mergeSort fun a b => a.start ≤ b.start).Pairwise
      fun a b => decide (a.start ≤ b.start) = true := by
    refine List.pairwise_mergeSort ?_ ?_ tags
    · intro a b c hab hbc
      simp only [decide_eq_true_eq] at hab hbc ⊢
      omega
    · intro a b
      simp only [Bool.or_eq_true, decide_eq_true_eq]
      omega
  refine List.Perm.eq_of_pairwise ?_ hmerged (hsorted.imp ?_)
    ((List.mergeSort_perm _ _).trans hperm)
  · intro a b hmema hmemb hab hba
    have hmema := ((List.mergeSort_perm _ _).trans hperm).subset hmema
    have hstart : a.start = b.start := by
      simp only [decide_eq_true_eq] at hab hba
      omega
    -- Tags of the woven passes that begin at one place are one tag.
    exact List.Pairwise.forall_of_forall_of_flip (R := fun x y => x.start = y.start → x = y)
      (fun _ _ _ => rfl) (hsorted.imp fun hlt heq => absurd heq (Nat.ne_of_lt hlt))
      (hsorted.imp fun hlt heq => absurd heq.symm (Nat.ne_of_lt hlt)) hmema hmemb hstart
  · intro a b hab
    simp only [decide_eq_true_eq]
    omega

end

/-! ## Dropping overlaps -/

/-- The three passes are in step with the one scan, which goes on at `past`:
no pass is still behind a find that ends later, and a tag in front of `past`
is passed over by its own pass too or ends in front of `past`. -/
structure InStep (find : Place → Option BlockTag) (ends : TagKind → Nat) (past : Nat)
    (p : Place) : Prop where
  behind : ∀ kind, ends kind ≤ max past p.pos
  covered : ∀ {n tag}, p.pos + n < past → find (p.skip n) = some tag →
    p.pos + n < ends tag.kind ∨ tag.stop ≤ past

section

variable {find : Place → Option BlockTag} {ends : TagKind → Nat} {past : Nat} {p : Place}
  {tag : BlockTag}

theorem InStep.start : InStep find (fun _ => 0) 0 p where
  behind := fun _ => Nat.zero_le _
  covered := fun h _ => absurd h (Nat.not_lt_zero _)

theorem InStep.next (h : InStep find ends past p) : InStep find ends past (p.skip 1) where
  behind := fun kind => by
    have hle := h.behind kind
    rw [Place.skip_pos]
    omega
  covered := fun {n tag} hn hfind => by
    rw [Place.skip_skip] at hfind
    rw [Place.skip_pos] at hn ⊢
    have hcovered := h.covered (n := 1 + n) (by omega) hfind
    omega

theorem InStep.overlapped (h : InStep find ends past p) (hfind : find p = some tag)
    (hpast : p.pos < past) (hends : ¬ p.pos < ends tag.kind) :
    InStep find (passed ends tag) past (p.skip 1) := by
  have hstop : tag.stop ≤ past := by
    have hcovered := h.covered (n := 0) hpast (by rwa [Place.skip_zero])
    exact hcovered.resolve_left hends
  refine ⟨fun kind => ?_, fun {n inner} hn hinner => ?_⟩
  · rw [passed]
    split
    · omega
    · exact h.next.behind kind
  · rw [passed]
    split
    · next hkind =>
        -- Its own pass was not behind a find here, so it is not further on either.
        have hcovered := h.next.covered hn hinner
        rw [hkind] at hcovered
        rw [Place.skip_pos] at hcovered
        omega
    · exact h.next.covered hn hinner

theorem InStep.found (h : InStep find ends past p) (horderly : Orderly find)
    (hfind : find p = some tag) (hpast : past ≤ p.pos) :
    InStep find (passed ends tag) tag.stop (p.skip 1) := by
  refine ⟨fun kind => ?_, fun {n inner} hn hinner => ?_⟩
  · have hle := h.behind kind
    rw [passed, Place.skip_pos]
    split <;> omega
  · rw [Place.skip_pos] at hn ⊢
    rw [Place.skip_skip] at hinner
    rcases horderly.inside hfind (by omega) (by omega) hinner with hkind | hstop
    · left
      rw [passed, if_pos hkind]
      omega
    · exact .inr hstop

end

/-- Dropping the tags that begin inside the one before them leaves of the
woven passes what the one scan finds. -/
theorem separate_weave {find : Place → Option BlockTag} (horderly : Orderly find)
    {cs : List Char} {p : Place} {ends : TagKind → Nat} {past : Nat} (hgroups : p.groups = [])
    (h : InStep find ends past p) :
    separate .none cs past (weave find ends p) = sweep BlockTag.stop find past p := by
  induction p using Place.along generalizing ends past with
  | nil p hrest => rw [weave_nil hrest, sweep_nil hrest, separate]
  | cons p c rest hrest ih =>
      rw [weave_cons hrest hgroups, sweep_cons hrest hgroups]
      cases hfind : find p with
      | none => simp only [ite_self, ih hgroups h.next]
      | some tag =>
          have hstart := horderly.start hfind
          by_cases hpast : p.pos < past
          -- The one scan is past the place. Its pass may be too, or the tag is dropped.
          · simp only [if_pos hpast]
            by_cases hends : p.pos < ends tag.kind
            · rw [if_pos hends]
              exact ih hgroups h.next
            · rw [if_neg hends, separate, if_pos (by omega)]
              exact ih hgroups (h.overlapped hfind hpast hends)
          · have hle := h.behind tag.kind
            simp only [if_neg hpast]
            rw [if_neg (by omega), separate, if_neg (by omega)]
            show tag :: _ = tag :: _
            congr 1
            exact ih hgroups (h.found horderly hfind (by omega))

/-! ## The standard syntax -/

open TagPattern

def word : TagKind → List Char
  | .opening => ['i', 'f']
  | .otherwise => ['e', 'l', 's', 'e']
  | .closing => ['e', 'n', 'd', 'i', 'f']

/-- A tag begins the text, and `c` characters end it behind the first `d`.
Nowhere else in it may a tag of one word end or another tag begin, and none
ends in a condition behind the beginning of another tag. -/
structure Shape (kind : TagKind) (cs : List Char) (d c : Nat) : Prop where
  leads : Leads (word kind) cs
  first : 1 ≤ d
  close : tagEnd? (cs.drop d) = some c
  plain : kind ≠ .opening → ∀ i, 1 ≤ i → i < d → Inner (cs.drop i)
  condition : ∀ i, 1 ≤ i → i < d → cs[i]? = some '<' →
    ∀ j, i < j → j < d → tagEnd? (cs.drop j) = none

theorem Shape.head {kind : TagKind} {cs : List Char} {d c : Nat} (h : Shape kind cs d c) :
    cs.head? = some '<' := by
  obtain ⟨tail, c, rest, rfl, _⟩ := h.leads
  rfl

/-- A tag that begins inside another one is of the same sort or ends no later. -/
theorem Shape.inside {kind kind' : TagKind} {cs : List Char} {d c d' c' i : Nat}
    (h : Shape kind cs d c) (h' : Shape kind' (cs.drop i) d' c') (hi : 1 ≤ i) (hd : i < d + c) :
    kind' = kind ∨ i + (d' + c') ≤ d + c := by
  have hopen : cs[i]? = some '<' := by rw [← List.head?_drop]; exact h'.head
  have hid : i < d := by
    refine Classical.byContradiction fun hnot => ?_
    refine (tagEnd?_spec h.close).2 (i - d) (by omega) ?_
    rw [List.getElem?_drop, Nat.add_sub_cancel' (by omega)]
    exact hopen
  have hopening : kind = .opening := by
    refine Classical.byContradiction fun hne => (h.plain hne i hi hid).1 ?_
    rw [List.head?_drop]
    exact hopen
  by_cases hkind : kind' = .opening
  · exact .inl (hkind.trans hopening.symm)
  · right
    -- Neither tag can end in front of the other one's end.
    have hclose' : tagEnd? (cs.drop (i + d')) = some c' := by
      rw [← List.drop_drop]
      exact h'.close
    have hsame : i + d' = d := by
      rcases Nat.lt_trichotomy (i + d') d with hlt | heq | hgt
      · have hnone := h.condition i hi hid hopen (i + d') (by have := h'.first; omega) hlt
        rw [hnone] at hclose'
        cases hclose'
      · exact heq
      · have hnone := (h'.plain hkind (d - i) (by omega) (by omega)).2
        rw [List.drop_drop, Nat.add_sub_cancel' (by omega), h.close] at hnone
        cases hnone
    rw [hsame, h.close] at hclose'
    cases hclose'
    omega

theorem Shape.kind_unique {kind kind' : TagKind} {cs : List Char} {d c d' c' : Nat}
    (h : Shape kind cs d c) (h' : Shape kind' cs d' c') : kind = kind' := by
  obtain ⟨rest, rest', heq⟩ := h.leads.common h'.leads
  cases kind <;> cases kind' <;> first | rfl | simp [word] at heq

theorem matchHere?_wordTag {w : Char} {word : List Char} (hw : isBlank w = false) (p : Place) :
    (wordTag (w :: word)).matchHere? p =
      (wordLength? (w :: word) p.rest).map fun n => Match.between p (p.skip n) := by
  rw [matchHere?, matchAt?_wordTag hw, Option.map_map]
  rfl

theorem tagHere?_otherwise (p : Place) : tagHere? .standard .otherwise p =
    (wordLength? (word .otherwise) p.rest).map fun n =>
      ⟨.otherwise, p.pos, p.pos + n, none⟩ := by
  show ((wordTag (word .otherwise)).matchHere? p).map _ = _
  rw [word, matchHere?_wordTag (by decide), Option.map_map]
  rfl

theorem tagHere?_closing (p : Place) : tagHere? .standard .closing p =
    (wordLength? (word .closing) p.rest).map fun n => ⟨.closing, p.pos, p.pos + n, none⟩ := by
  show ((wordTag (word .closing)).matchHere? p).map _ = _
  rw [word, matchHere?_wordTag (by decide), Option.map_map]
  rfl

theorem matchHere?_standardIf (p : Place) : standardIf.regex.matchHere? p =
    (openingLengths? p.rest).map fun e =>
      ⟨p.pos, p.pos + (e.1 + e.2.1 + e.2.2), p.rest.take (e.1 + e.2.1 + e.2.2),
        ("condition", (p.rest.drop e.1).take e.2.1) :: p.groups⟩ := by
  rw [matchHere?, matchAt?_standardIf, Option.map_map]
  congr 1
  funext e
  simp [Match.between, Function.comp]

theorem tagHere?_opening (p : Place) : tagHere? .standard .opening p =
    (openingLengths? p.rest).map fun e => ⟨.opening, p.pos, p.pos + (e.1 + e.2.1 + e.2.2),
      some (String.ofList (trim ((p.rest.drop e.1).take e.2.1)))⟩ := by
  show (standardIf.regex.matchHere? p).map _ = _
  rw [matchHere?_standardIf, Option.map_map]
  rfl

theorem shape_word {kind : TagKind} {w : Char} {rest cs : List Char} {n : Nat}
    (hword : word kind = w :: rest) (hplain : ∀ c ∈ word kind, Plain c)
    (h : wordLength? (word kind) cs = some n) : ∃ d c, n = d + c ∧ Shape kind cs d c := by
  have hleads := wordLength?_leads h
  rw [hword] at hplain h
  obtain ⟨d, c, hd, hn, hclose, hinner⟩ := wordLength?_spec hplain h
  refine ⟨d, c, hn, hleads, hd, hclose, fun _ => hinner, fun i hi hlt hopen => ?_⟩
  refine absurd ?_ (hinner i hi hlt).1
  rw [List.head?_drop]
  exact hopen

theorem shape_opening {cs : List Char} {e : Nat × Nat × Nat} (h : openingLengths? cs = some e) :
    Shape .opening cs (e.1 + e.2.1) e.2.2 := by
  obtain ⟨n, m, c⟩ := e
  obtain ⟨hm, hclose, hlead, hcondition⟩ := openingLengths?_spec h
  refine ⟨openingLengths?_leads h, by simp only []; omega, hclose, fun hne => absurd rfl hne,
    fun i hi hlt hopen j hij hj => ?_⟩
  simp only [] at hlt hj
  have hin : n ≤ i := Nat.le_of_not_lt fun hlt => hlead i hi hlt hopen
  have hnone := hcondition (j - n) (by omega) (by omega)
  rwa [Nat.add_sub_cancel' (by omega)] at hnone

theorem tagHere?_shape {kind : TagKind} {p : Place} {tag : BlockTag}
    (h : tagHere? .standard kind p = some tag) : tag.kind = kind ∧ tag.start = p.pos ∧
      ∃ d c, tag.stop = p.pos + (d + c) ∧ Shape kind p.rest d c := by
  cases kind with
  | opening =>
      rw [tagHere?_opening] at h
      obtain ⟨e, he, rfl⟩ := Option.map_eq_some_iff.1 h
      exact ⟨rfl, rfl, e.1 + e.2.1, e.2.2, rfl, shape_opening he⟩
  | otherwise =>
      rw [tagHere?_otherwise] at h
      obtain ⟨n, hn, rfl⟩ := Option.map_eq_some_iff.1 h
      obtain ⟨d, c, rfl, hshape⟩ := shape_word rfl (by simp [word, Plain]; decide) hn
      exact ⟨rfl, rfl, d, c, rfl, hshape⟩
  | closing =>
      rw [tagHere?_closing] at h
      obtain ⟨n, hn, rfl⟩ := Option.map_eq_some_iff.1 h
      obtain ⟨d, c, rfl, hshape⟩ := shape_word rfl (by simp [word, Plain]; decide) hn
      exact ⟨rfl, rfl, d, c, rfl, hshape⟩

/-- A place finds a tag exactly if some sort of tag begins there. -/
theorem tagAt?_eq_some {p : Place} {tag : BlockTag} :
    tagAt? .standard p = some tag ↔ ∃ kind, tagHere? .standard kind p = some tag := by
  have hunique : ∀ {kind kind' tag tag'}, tagHere? .standard kind p = some tag →
      tagHere? .standard kind' p = some tag' → kind = kind' := by
    intro kind kind' tag tag' h h'
    obtain ⟨_, _, d, c, _, hshape⟩ := tagHere?_shape h
    obtain ⟨_, _, d', c', _, hshape'⟩ := tagHere?_shape h'
    exact hshape.kind_unique hshape'
  have hnone : ∀ {kind tag} kind', kind' ≠ kind → tagHere? .standard kind p = some tag →
      tagHere? .standard kind' p = none := by
    intro kind tag kind' hne h
    cases h' : tagHere? .standard kind' p with
    | none => rfl
    | some tag' => exact absurd (hunique h' h) hne
  constructor
  · intro h
    rw [tagAt?] at h
    rcases Option.or_eq_some_iff.1 h with h | ⟨_, h⟩
    · exact ⟨_, h⟩
    · rcases Option.or_eq_some_iff.1 h with h | ⟨_, h⟩ <;> exact ⟨_, h⟩
  · rintro ⟨kind, h⟩
    rw [tagAt?]
    cases kind with
    | opening => rw [h, Option.some_or]
    | otherwise => rw [hnone .opening (by decide) h, h, Option.none_or, Option.some_or]
    | closing =>
        rw [hnone .opening (by decide) h, hnone .otherwise (by decide) h, h, Option.none_or,
          Option.none_or]

theorem ofKind_tagAt? (kind : TagKind) :
    ofKind (tagAt? .standard) kind = tagHere? .standard kind := by
  funext p
  ext tag
  rw [ofKind, Option.filter_eq_some_iff, tagAt?_eq_some]
  constructor
  · rintro ⟨⟨kind', h⟩, hkind⟩
    have hkind' := (tagHere?_shape h).1
    simp only [decide_eq_true_eq] at hkind
    rw [← hkind, hkind']
    exact h
  · intro h
    exact ⟨⟨kind, h⟩, by simpa using (tagHere?_shape h).1⟩

theorem orderly_standard : Orderly (tagAt? .standard) where
  start := fun h => by
    obtain ⟨kind, h⟩ := tagAt?_eq_some.1 h
    exact (tagHere?_shape h).2.1
  stop := fun h => by
    obtain ⟨kind, h⟩ := tagAt?_eq_some.1 h
    obtain ⟨_, _, d, c, hstop, hshape⟩ := tagHere?_shape h
    have hd := hshape.first
    omega
  inside := fun {p n tag inner} h hn hlt hinner => by
    obtain ⟨kind, h⟩ := tagAt?_eq_some.1 h
    obtain ⟨kind', hinner⟩ := tagAt?_eq_some.1 hinner
    obtain ⟨hkind, _, d, c, hstop, hshape⟩ := tagHere?_shape h
    obtain ⟨hkind', _, d', c', hstop', hshape'⟩ := tagHere?_shape hinner
    rw [Place.skip_rest] at hshape'
    rw [Place.skip_pos] at hstop'
    have hinside := hshape.inside hshape' hn (by omega)
    rw [hkind, hkind']
    exact hinside.imp id fun hle => by omega

/-! ## The passes -/

theorem words_eq_sweep (kind : TagKind) {r : Regex} (hr : r.Consumes) (cs : List Char) :
    words kind r cs = sweep BlockTag.stop
      (fun p => (r.matchHere? p).map fun m => ⟨kind, m.start, m.stop, none⟩) 0
      (Place.ofText cs) := by
  rw [words, allMatches_eq_sweep hr]
  exact sweep_map _ BlockTag.stop (fun _ => rfl) rfl

/-- The pass for opening tags, which always have a condition. -/
theorem openings_standard (cs : List Char) : openings .standard cs =
    .ok (sweep BlockTag.stop (tagHere? .standard .opening) 0 (Place.ofText cs)) := by
  have hconsumes : standardIf.regex.Consumes := consumes_one _ _
  have hcondition : ∀ m ∈ standardIf.regex.allMatches cs,
      (conditionOf standardIf.regex m >>= fun condition =>
        .ok (⟨.opening, m.start, m.stop, some condition⟩ : BlockTag)) =
      .ok ⟨.opening, m.start, m.stop,
        (m.group? "condition").map fun cs => String.ofList (trim cs)⟩ := by
    intro m hm
    rw [allMatches_eq_sweep hconsumes] at hm
    obtain ⟨p, hp⟩ := mem_sweep rfl hm
    rw [matchHere?_standardIf] at hp
    obtain ⟨e, _, rfl⟩ := Option.map_eq_some_iff.1 hp
    rfl
  refine (mapM_eq_ok_map hcondition).trans ?_
  rw [allMatches_eq_sweep hconsumes]
  exact congrArg _ (sweep_map _ BlockTag.stop (fun _ => rfl) rfl)

theorem found_standard (cs : List Char) : found .standard cs =
    .ok (weave (tagAt? .standard) (fun _ => 0) (Place.ofText cs)) := by
  have hotherwise : words .otherwise Patterns.standard.elseTag.regex cs =
      sweep BlockTag.stop (tagHere? .standard .otherwise) 0 (Place.ofText cs) :=
    words_eq_sweep .otherwise (consumes_one _ _) cs
  have hclosing : words .closing Patterns.standard.endifTag.regex cs =
      sweep BlockTag.stop (tagHere? .standard .closing) 0 (Place.ofText cs) :=
    words_eq_sweep .closing (consumes_one _ _) cs
  have hperm := weave_perm (tagAt? .standard) (fun _ => 0) (p := Place.ofText cs) rfl
  simp only [ofKind_tagAt?] at hperm
  rw [found, openings_standard, ok_bind, hotherwise, hclosing]
  exact congrArg _ (orderly_standard.mergeSort_eq_weave rfl hperm)

theorem scan_eq_onePass (cs : List Char) :
    scan .standard .none cs = .ok (onePass .standard cs) := by
  rw [scan, found_standard]
  show Except.ok _ = _
  rw [separate_weave orderly_standard rfl .start]
  rfl

/-- With the standard syntax and no trimming, the tags of a text are those
that one scan finds. A tag of any sort that begins anywhere in the text is
one of them, unless it begins inside one of them. -/
theorem scan_is_one_pass (cs : List Char) :
    scan .standard .none cs = .ok (onePass .standard cs) ∧
      ∀ kind n tag, tagHere? .standard kind ((Place.ofText cs).skip n) = some tag →
        tag ∈ onePass .standard cs ∨
          ∃ outer ∈ onePass .standard cs, outer.start < tag.start ∧ tag.start < outer.stop := by
  refine ⟨scan_eq_onePass cs, fun kind n tag h => ?_⟩
  obtain ⟨_, hstart, _, _, _, hshape⟩ := tagHere?_shape h
  have hn : n < cs.length := by
    refine Classical.byContradiction fun hnot => ?_
    have hhead : (cs.drop n).head? = some '<' := hshape.head
    rw [List.drop_of_length_le (Nat.le_of_not_lt hnot)] at hhead
    cases hhead
  have hpos : tag.start = 0 + n := hstart
  rcases sweep_covers 0 (p := Place.ofText cs) rfl hn (tagAt?_eq_some.2 ⟨kind, h⟩) with
    hin | hlt | ⟨outer, houter, i, hi, hfound, hlt⟩
  · exact .inl hin
  · omega
  · have houterStart : outer.start = 0 + i := orderly_standard.start hfound
    have hstop : 0 + n < outer.stop := hlt
    exact .inr ⟨outer, houter, by omega, by omega⟩

end Stencil.BlockTag
