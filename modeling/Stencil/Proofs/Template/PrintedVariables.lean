import Stencil.Proofs.Template.VariableShape

/-!
# The variable tags of a printed template

What the last stage finds in printed leaves: each variable tag as it was
printed, with its parts. The expression for variable tags is followed from
left to right. Where it is greedy the first attempt is the one that
succeeds; where it is lazy the earlier attempts fail, because no tag ends
inside a default or inside arguments. What stands behind the tag is never
looked at.
-/

namespace Stencil.Printed

open Stencil.Regex Stencil.Text Stencil.TagPattern

/-! ## The end of a tag -/

section

variable {p q : Place} {k : Continue}

/-- What ends a variable tag. -/
def closing : List Regex := gap :: phrase ['%', '>']

theorem run_closing {tail : List Char} (hrest : p.rest = ' ' :: '%' :: '>' :: tail) :
    run (.all closing) p some = some (p.skip 3) := by
  have hgap : gapLength p.rest = 1 := by rw [hrest, gapLength_eq_one (by decide)]
  rw [closing, run_all_cons, run_gap_phrase (by decide), hgap, hrest]
  rfl

theorem run_closing_none (h : tagEnd? p.rest = none) : run (.all closing) p some = none := by
  rw [tagEnd?, Option.map_eq_none_iff] at h
  rw [closing, run_all_cons, run_gap_phrase (by decide), h, Option.bind_none]

/-! ## The name -/

/-- A reserved word in front of a longer name does not end there. -/
theorem run_reserved_none {w : Word} {tail : List Char} (hrest : p.rest = w.chars ++ tail)
    (htail : ∀ c ∈ tail.head?, isNameChar c = false) (hfree : w.chars ∉ reservedWords) :
    run reserved p some = none := by
  rw [← Option.not_isSome_iff_eq_none, run_reserved, hrest]
  rintro ⟨word, hword, rest, hsplit, hends⟩
  have hne : w.chars ≠ word := fun heq => hfree (by rw [heq]; exact hword)
  obtain ⟨d, more, hname, rfl⟩ := word_split (isNameChar_reserved hword) hne htail hsplit
  have hd := isWordChar_of_nameChar (w.plain d (by rw [hname]; simp))
  rw [hends d rfl] at hd
  cases hd

theorem run_word {w : Word} {tail : List Char} (hrest : p.rest = w.chars ++ tail)
    (htail : ∀ c ∈ tail.head?, isNameChar c = false) (hk : k (p.skip w.chars.length) = some q) :
    run nameWord p k = some q := by
  have hplain : ∀ c ∈ w.chars, (CharClass.set false nameChars).holds c = true := w.plain
  rw [nameWord, oneOf, run_some1]
  cases hchars : w.chars with
  | nil => exact absurd hchars w.nonempty
  | cons c cs =>
      rw [hchars] at hrest hk hplain
      have hrest' : (p.skip 1).rest = cs ++ tail := by rw [Place.skip_rest, hrest]; rfl
      rw [Place.step?_cons _ hrest, if_pos (hplain c List.mem_cons_self), Option.bind_some]
      refine run_many_all hrest' (fun d hd => hplain d (List.mem_cons_of_mem c hd)) htail ?_
      rwa [Place.skip_skip, Nat.add_comm]

theorem run_name {w : Word} {tail : List Char} (hrest : p.rest = w.chars ++ tail)
    (htail : ∀ c ∈ tail.head?, isNameChar c = false) (hfree : w.chars ∉ reservedWords)
    (hk : k (p.marked w.chars.length (("name", w.chars) :: p.groups)) = some q) :
    run (.group "name" (.all [.ahead true reserved, nameWord])) p k = some q := by
  have hahead : ∀ k', run (.ahead true reserved) p k' = k' p := by
    intro k'
    rw [run_ahead, run_reserved_none hrest htail hfree]
    rfl
  rw [run_group, run_all_cons, hahead, run_all_cons]
  refine run_word hrest htail ?_
  rw [run_all_nil, Place.skip_eq_marked, Place.keep_marked, hrest, List.take_left]
  exact hk

/-! ## The filter -/

/-- The use of a filter, with the arguments as they are written. -/
def filterText (name : Word) (args : Option (List Char)) : List Char :=
  '|' :: (name.chars ++ (args.map (':' :: ·)).getD [])

/-- The groups that the use of a filter leaves, latest first. -/
def filterGroups (name : Word) (args : Option (List Char)) : List (String × List Char) :=
  ("filter", filterText name args) ::
    ((args.map fun a => ("filter_args", a)).toList ++ [("filter_name", name.chars)])

def FilterUse.groups (f : FilterUse) : List (String × List Char) :=
  ("filter", f.print) :: ((f.args.map fun a => ("filter_args", a.chars)).toList ++
    [("filter_name", f.name.chars)])

theorem FilterUse.print_eq (f : FilterUse) :
    f.print = filterText f.name (f.args.map (·.chars)) := by
  rw [FilterUse.print, filterText, Option.map_map]
  rfl

theorem FilterUse.groups_eq (f : FilterUse) :
    f.groups = filterGroups f.name (f.args.map (·.chars)) := by
  rw [FilterUse.groups, filterGroups, f.print_eq, Option.map_map]
  rfl

/-- The end of a tag behind a filter. -/
def behindFilter : Continue := fun q => run (.all closing) q some

/-- The rest of a tag behind a default. -/
def behindDefault : Continue :=
  fun q => run (.optional (.group "filter" filterPart)) q behindFilter

theorem behindDefault_none (h : p.rest.head? ≠ some '|') : behindDefault p = behindFilter p := by
  rw [behindDefault, run_optional_none]
  rw [run_group, filterPart, run_all_char_none h]

theorem holds_notLine {c : Char} {cs : List Char} (hline : '\n' ∉ cs) (hc : c ∈ cs) :
    (CharClass.set true [.one '\n']).holds c = true := by
  have hne : '\n' ≠ c := fun heq => hline (heq ▸ hc)
  simp [CharClass.holds, Member.holds, hne]

theorem closer_head (tail : List Char) :
    ∀ c ∈ (' ' :: '%' :: '>' :: tail).head?, c ≠ '%' ∧ c ≠ '>' := by
  rintro c ⟨⟩
  decide

theorem run_args {cs tail : List Char} (hline : '\n' ∉ cs) (hinside : ¬ closer <:+: cs)
    (hrest : p.rest = ':' :: cs ++ ' ' :: '%' :: '>' :: tail)
    (hnone : ∀ r : Place, tagEnd? r.rest = none → k r = none)
    (hk : k (p.marked (cs.length + 1) (("filter_args", cs) :: p.groups)) = some q) :
    run (.all [.one (.one ':'),
      .group "filter_args" (.all [.manyLazy (.noneOf [.one '\n'])])]) p k = some q := by
  have hrest' : (p.skip 1).rest = cs ++ ' ' :: '%' :: '>' :: tail := by
    rw [Place.skip_rest, hrest]; rfl
  have hhead : p.rest.head? = some ':' := by rw [hrest]; rfl
  rw [run_all_cons, run_char, if_pos hhead, run_all_cons, run_group, run_all_cons]
  refine run_manyLazy_until hrest' (fun c hc => holds_notLine hline hc) (fun i hi => ?_) ?_
  · rw [run_all_nil, run_all_nil]
    refine hnone _ ?_
    show tagEnd? ((p.skip 1).rest.drop i) = none
    rw [hrest']
    exact tagEnd?_inside hinside (closer_head tail) hi
  · rw [run_all_nil, run_all_nil, Place.skip_eq_marked (p.skip 1), Place.keep_marked, hrest',
      List.take_left, Place.skip_eq_marked p, Place.marked_marked, Nat.add_comm]
    exact hk

/-- The use of a filter, with the end of the tag behind it. -/
theorem behindDefault_filterText {w : Word} {args : Option (List Char)} {tail : List Char}
    (hargs : ∀ a ∈ args, '\n' ∉ a ∧ ¬ closer <:+: a)
    (hrest : p.rest = filterText w args ++ ' ' :: '%' :: '>' :: tail) :
    behindDefault p =
      some (p.marked ((filterText w args).length + 3) (filterGroups w args ++ p.groups)) := by
  have hhead : p.rest.head? = some '|' := by rw [hrest]; rfl
  have hname : (p.skip 1).rest =
      w.chars ++ ((args.map (':' :: ·)).getD [] ++ ' ' :: '%' :: '>' :: tail) := by
    rw [Place.skip_rest, hrest, ← List.append_assoc]; rfl
  rw [behindDefault]
  refine run_optional_some ?_
  rw [run_group, filterPart, run_all_cons, run_char, if_pos hhead, run_all_cons, run_group,
    run_all_cons]
  refine run_word hname ?_ ?_
  · rcases args with _ | a <;> rintro c ⟨⟩ <;> decide
  · rw [run_all_nil, Place.skip_eq_marked (p.skip 1), Place.keep_marked, hname, List.take_left,
      Place.skip_eq_marked p, Place.marked_marked, Place.marked_groups, run_all_cons]
    -- Whatever is read of the arguments, the filter ends behind it and so does the tag.
    have hend : ∀ n groups, n = (filterText w args).length →
        run (.all []) (p.marked n groups) (fun r => behindFilter (p.keep "filter" r)) =
          some (p.marked ((filterText w args).length + 3)
            (("filter", filterText w args) :: groups)) := by
      rintro n groups rfl
      rw [run_all_nil, Place.keep_marked, hrest, List.take_left]
      have hcloser : (p.marked (filterText w args).length
          (("filter", filterText w args) :: groups)).rest = ' ' :: '%' :: '>' :: tail := by
        rw [Place.marked_rest, hrest, List.drop_left]
      rw [behindFilter, run_closing hcloser, Place.marked_skip]
    have hbehind : ∀ groups, (p.marked (1 + w.chars.length) groups).rest =
        (args.map (':' :: ·)).getD [] ++ ' ' :: '%' :: '>' :: tail := by
      intro groups
      rw [Place.marked_rest, ← List.drop_drop, ← Place.skip_rest, hname, List.drop_left]
    cases args with
    | none =>
        have hhead : (p.marked (1 + w.chars.length)
            (("filter_name", w.chars) :: p.groups)).rest.head? ≠ some ':' := by
          rw [hbehind]
          rintro ⟨⟩
        rw [run_optional_none (run_all_char_none hhead),
          hend _ _ (by simp [filterText]; omega)]
        simp [filterGroups]
    | some a =>
        obtain ⟨hline, hinside⟩ := hargs a rfl
        have hrest' := hbehind (("filter_name", w.chars) :: p.groups)
        refine run_optional_some (run_args hline hinside hrest' (fun r hr => ?_) ?_)
        · rw [run_all_nil]
          exact run_closing_none hr
        · rw [Place.marked_marked, Place.marked_groups, hend _ _ (by simp [filterText]; omega)]
          simp [filterGroups]

theorem behindDefault_filter {f : FilterUse} {tail : List Char}
    (hrest : p.rest = f.print ++ ' ' :: '%' :: '>' :: tail) :
    behindDefault p = some (p.marked (f.print.length + 3) (f.groups ++ p.groups)) := by
  rw [f.print_eq] at hrest
  rw [f.groups_eq, f.print_eq]
  refine behindDefault_filterText (fun a ha => ?_) hrest
  obtain ⟨t, _, rfl⟩ := Option.map_eq_some_iff.1 ha
  exact ⟨t.inLine, t.inside⟩

/-! ## The default -/

/-- The rest of a tag behind its name. -/
def behindName : Continue :=
  fun q => run (.optional (.group "default" defaultPart)) q behindDefault

theorem behindName_none (h : p.rest.head? ≠ some '=') : behindName p = behindDefault p := by
  rw [behindName, run_optional_none]
  rw [run_group, defaultPart, run_all_char_none h]

/-- A quoted text is read up to the closing quote. -/
theorem run_quoted {d : Char} {cs tail : List Char} (hrest : p.rest = d :: (cs ++ d :: tail))
    (hquote : d ∉ cs) (hline : '\n' ∉ cs) (hk : k (p.skip (cs.length + 2)) = some q) :
    run (quotedInLine d) p k = some q := by
  refine run_enclosed hrest (fun c hc => ?_) ?_ hk
  · have hd : d ≠ c := fun heq => hquote (heq ▸ hc)
    have hn : '\n' ≠ c := fun heq => hline (heq ▸ hc)
    simp [CharClass.holds, Member.holds, hd, hn]
  · simp [CharClass.holds, Member.holds]

theorem run_quoted_none {d : Char} (h : p.rest.head? ≠ some d) :
    run (quotedInLine d) p k = none := by
  rw [quotedInLine, run_all_char_none h]

/-- A default as it is written: a quoted text, or one without quotes in which
no tag ends. -/
inductive DefaultText : List Char → Prop
  | quoted {d : Char} {cs : List Char} : d = '"' ∨ d = '\'' → d ∉ cs → '\n' ∉ cs →
      DefaultText ('=' :: d :: (cs ++ [d]))
  | bare {cs : List Char} : (∀ c ∈ cs, c ∉ ['"', '\'', '|', '\n']) → ¬ closer <:+: cs →
      DefaultText ('=' :: cs)

theorem Default.written (d : Default) : DefaultText d.print := by
  cases d with
  | quoted t => exact .quoted t.isQuote t.unquoted t.inLine
  | bare t =>
      refine .bare (fun c hc => ?_) t.inside
      have hplain := t.plain c hc
      simp only [List.mem_cons, not_or] at hplain ⊢
      exact ⟨hplain.1, hplain.2.1, hplain.2.2.2.1, hplain.2.2.2.2⟩

/-- A default is read as it is written, if the rest of the tag succeeds behind
it. -/
theorem behindName_default {text tail : List Char} (htext : DefaultText text)
    (hrest : p.rest = text ++ tail) (htail : ∀ c ∈ tail.head?, c = ' ' ∨ c = '|')
    (hk : behindDefault (p.marked text.length (("default", text) :: p.groups)) = some q) :
    behindName p = some q := by
  have hhead : p.rest.head? = some '=' := by rw [hrest]; cases htext <;> rfl
  -- Wherever the default ends, it is kept there.
  have hend : ∀ n, n = text.length →
      run (.all []) (p.skip n) (fun r => behindDefault (p.keep "default" r)) = some q := by
    rintro n rfl
    rw [run_all_nil, Place.skip_eq_marked, Place.keep_marked, hrest, List.take_left]
    exact hk
  have hfirst : ∀ r, .first [quotedInLine '"', quotedInLine '\'', r] =
      Regex.alt (quotedInLine '"') (.alt (quotedInLine '\'') r) := fun _ => rfl
  rw [behindName]
  refine run_optional_some ?_
  rw [run_group, defaultPart, run_all_cons, run_char, if_pos hhead, run_all_cons, hfirst,
    run_alt, run_alt]
  cases htext with
  | @quoted d cs hquote hunquoted hline =>
      have hquoted : (p.skip 1).rest = d :: (cs ++ d :: tail) := by
        rw [Place.skip_rest, hrest]
        simp
      have hread : run (quotedInLine d) (p.skip 1)
          (fun r => run (.all []) r fun r => behindDefault (p.keep "default" r)) = some q := by
        refine run_quoted hquoted hunquoted hline ?_
        rw [Place.skip_skip]
        exact hend _ (by simp; omega)
      rcases hquote with rfl | rfl
      · rw [hread, Option.some_or]
      · have hnone : (p.skip 1).rest.head? ≠ some '"' := by
          rw [hquoted]
          rintro ⟨⟩
        rw [run_quoted_none hnone, hread, Option.none_or, Option.some_or]
  | @bare cs hplain hinside =>
      have hbare : (p.skip 1).rest = cs ++ tail := by rw [Place.skip_rest, hrest]; rfl
      have hquotes : ∀ c ∈ (p.skip 1).rest.head?, c ≠ '"' ∧ c ≠ '\'' := by
        intro c hc
        rw [hbare, List.head?_append, Option.mem_def, Option.or_eq_some_iff] at hc
        rcases hc with hc | ⟨_, hc⟩
        · have hplain := hplain c (List.mem_of_mem_head? hc)
          simp only [List.mem_cons, not_or] at hplain
          exact ⟨hplain.1, hplain.2.1⟩
        · rcases htail c hc with rfl | rfl <;> decide
      rw [run_quoted_none fun h => (hquotes _ h).1 rfl,
        run_quoted_none fun h => (hquotes _ h).2 rfl, Option.none_or, Option.none_or, run_all_cons]
      refine run_manyLazy_until hbare (fun c hc => ?_) (fun i hi => ?_) ?_
      · have hplain := hplain c hc
        simp only [List.mem_cons, not_or] at hplain
        have hbar : '|' ≠ c := Ne.symm hplain.2.2.1
        have hline : '\n' ≠ c := Ne.symm hplain.2.2.2.1
        simp [CharClass.holds, Member.holds, hbar, hline]
      · -- Neither a filter nor the end of the tag begins inside the default.
        have hleft : (p.keep "default" ((p.skip 1).skip i)).rest = (cs ++ tail).drop i := by
          show (p.skip 1).rest.drop i = _
          rw [hbare]
        have hnoFilter : ((cs ++ tail).drop i).head? ≠ some '|' := by
          rw [List.head?_drop, List.getElem?_append_left hi]
          intro heq
          exact absurd (hplain _ (List.mem_of_getElem? heq)) (by decide)
        have hends : ∀ c ∈ tail.head?, c ≠ '%' ∧ c ≠ '>' := by
          intro c hc
          rcases htail c hc with rfl | rfl <;> decide
        rw [run_all_nil, run_all_nil, behindDefault_none (by rwa [hleft])]
        refine run_closing_none ?_
        rw [hleft]
        exact tagEnd?_inside hinside hends hi
      · rw [run_all_nil, Place.skip_skip]
        exact hend _ (by simp; omega)

/-! ## A whole tag -/

def Slot.backGroups (s : Slot) : List (String × List Char) :=
  (s.filter.map (·.groups)).getD [] ++ (s.default.map fun d => ("default", d.print)).toList

theorem behindDefault_closer {tail : List Char} (hrest : p.rest = ' ' :: '%' :: '>' :: tail) :
    behindDefault p = some (p.marked 3 p.groups) := by
  have hhead : p.rest.head? ≠ some '|' := by
    rw [hrest]
    rintro ⟨⟩
  rw [behindDefault_none hhead, behindFilter, run_closing hrest, Place.skip_eq_marked]

theorem behindDefault_back {s : Slot} {tail : List Char}
    (hrest : p.rest = (s.filter.map (·.print)).getD [] ++ ' ' :: '%' :: '>' :: tail) :
    behindDefault p = some (p.marked (((s.filter.map (·.print)).getD []).length + 3)
      ((s.filter.map (·.groups)).getD [] ++ p.groups)) := by
  rcases hfilter : s.filter with _ | f
  · rw [hfilter] at hrest
    exact behindDefault_closer hrest
  · rw [hfilter] at hrest
    exact behindDefault_filter hrest

theorem behindName_back {s : Slot} {tail : List Char} (hrest : p.rest = s.back ++ tail) :
    behindName p = some (p.marked s.back.length (s.backGroups ++ p.groups)) := by
  rw [Slot.back, List.append_assoc, List.append_assoc] at hrest
  rcases hdefault : s.default with _ | d
  · rw [hdefault] at hrest
    have hhead : p.rest.head? ≠ some '=' := by
      rw [hrest]
      rcases s.filter with _ | f <;> rintro ⟨⟩
    rw [behindName_none hhead, behindDefault_back hrest]
    simp [Slot.back, Slot.backGroups, hdefault]
  · rw [hdefault] at hrest
    have hdrop : (p.marked d.print.length (("default", d.print) :: p.groups)).rest =
        (s.filter.map (·.print)).getD [] ++ ' ' :: '%' :: '>' :: tail := by
      rw [Place.marked_rest, hrest]
      exact List.drop_left
    refine behindName_default d.written hrest ?_ ?_
    · rcases s.filter with _ | f <;> rintro c ⟨⟩ <;> decide
    · rw [behindDefault_back hdrop, Place.marked_marked]
      simp [Slot.back, Slot.backGroups, hdefault]

/-- The groups that a variable tag leaves, latest first. -/
def Slot.groups (s : Slot) : List (String × List Char) :=
  s.backGroups ++ [("name", s.name.chars)]

theorem matchHere?_none (h : p.rest.head? ≠ some '<') :
    standardVariable.regex.matchHere? p = none := by
  obtain ⟨rs, hrs⟩ : ∃ rs, standardVariable.regex = .all (.one (.one '<') :: rs) := ⟨_, rfl⟩
  rw [matchHere?, matchAt?_true, hrs, run_all_char_none h, Option.map_none]

/-- A tag is matched as it is written, if what stands behind its name is read
to the end. -/
theorem matchHere?_named {w : Word} {back tail : List Char} {groups : List (String × List Char)}
    (hfree : w.chars ∉ reservedWords) (hhead : ∀ c ∈ (back ++ tail).head?, isNameChar c = false)
    (hrest : p.rest = ['<', '%', ' '] ++ w.chars ++ back ++ tail) (hgroups : p.groups = [])
    (hbehind : ∀ r : Place, r.rest = back ++ tail →
      behindName r = some (r.marked back.length (groups ++ r.groups))) :
    standardVariable.regex.matchHere? p =
      some ⟨p.pos, p.pos + (['<', '%', ' '] ++ w.chars ++ back).length,
        ['<', '%', ' '] ++ w.chars ++ back, groups ++ [("name", w.chars)]⟩ := by
  have hsplit : standardVariable.regex = .all (phrase ['<', '%'] ++ gap ::
      .group "name" (.all [.ahead true reserved, nameWord]) ::
      .optional (.group "default" defaultPart) :: .optional (.group "filter" filterPart) ::
      closing) := rfl
  have hopen : afterPhrase? ['<', '%'] p.rest = some (' ' :: (w.chars ++ back ++ tail)) := by
    rw [hrest]
    simp [afterPhrase?]
  have hblank : (p.skip 2).rest = ' ' :: (w.chars ++ back ++ tail) := by
    rw [Place.skip_rest, hrest]
    simp
  have hname : (p.skip 3).rest = w.chars ++ (back ++ tail) := by
    rw [Place.skip_rest, hrest]
    simp
  have hback : ((p.skip 3).marked w.chars.length
      (("name", w.chars) :: (p.skip 3).groups)).rest = back ++ tail := by
    rw [Place.marked_rest, hname, List.drop_left]
  have hmatch : standardVariable.regex.matchAt? true p = some (p.marked
      (['<', '%', ' '] ++ w.chars ++ back).length (groups ++ [("name", w.chars)])) := by
    rw [matchAt?_true, hsplit, run_all_append, run_phrase, hopen, Option.bind_some, run_all_cons]
    refine run_optional_some ((run_blank hblank).trans ?_)
    rw [if_pos (by decide), Place.skip_skip, run_all_cons]
    refine run_name hname hhead hfree ?_
    have hread := hbehind _ hback
    rw [behindName] at hread
    simp only [run_all_cons]
    refine hread.trans ?_
    rw [Place.marked_marked, Place.skip_eq_marked, Place.marked_marked]
    simp only [Place.marked_groups, hgroups, List.length_append, List.length_cons,
      List.length_nil, Nat.zero_add, Nat.reduceAdd, Nat.add_assoc]
  rw [matchHere?, hmatch, Option.map_some, Match.between, Place.marked_pos, hrest,
    Nat.add_sub_cancel_left, List.take_left]
  rfl

theorem matchHere?_slot {s : Slot} {tail : List Char} (hrest : p.rest = s.print ++ tail)
    (hgroups : p.groups = []) : standardVariable.regex.matchHere? p =
      some ⟨p.pos, p.pos + s.print.length, s.print, s.groups⟩ := by
  rw [s.print_eq] at hrest ⊢
  exact matchHere?_named s.free (s.back_head tail) hrest hgroups fun r hr => behindName_back hr

end

/-! ## All tags -/

/-- The variable tag that is found where a slot was printed. -/
def Slot.variable (s : Slot) (pos : Nat) : Variable where
  text := String.ofList s.print
  start := pos
  stop := pos + s.print.length
  name := String.ofList s.name.chars
  default := s.default.map fun d => String.ofList d.print
  filter := s.filter.map fun f => String.ofList f.print
  filterName := s.filter.map fun f => String.ofList f.name.chars
  filterArgs := s.filter.bind fun f => f.args.map fun a => String.ofList a.chars

theorem ofMatch_slot (s : Slot) (pos : Nat) :
    Variable.ofMatch standardVariable.regex ⟨pos, pos + s.print.length, s.print, s.groups⟩ =
      .ok (s.variable pos) := by
  have hplace : standardVariable.regex.hasGroup "name" = true := by decide
  rw [Variable.ofMatch, if_pos hplace, Slot.variable]
  rcases hfilter : s.filter with _ | f
  · rcases hdefault : s.default with _ | d <;>
      simp [Match.group?, Slot.groups, Slot.backGroups, hfilter, hdefault, List.lookup_cons]
  · rcases hargs : f.args with _ | a <;> rcases hdefault : s.default with _ | d <;>
      simp [Match.group?, Slot.groups, Slot.backGroups, FilterUse.groups, hfilter, hdefault, hargs,
        List.lookup_cons]

/-- A text that is one tag from its first character to its last has no other. -/
theorem scan_named {w : Word} {back : List Char} (groups : List (String × List Char))
    {v : Variable} (hfree : w.chars ∉ reservedWords)
    (hhead : ∀ c ∈ back.head?, isNameChar c = false)
    (hbehind : ∀ r : Place, r.rest = back →
      behindName r = some (r.marked back.length (groups ++ r.groups)))
    (hv : Variable.ofMatch standardVariable.regex ⟨0, (['<', '%', ' '] ++ w.chars ++ back).length,
      ['<', '%', ' '] ++ w.chars ++ back, groups ++ [("name", w.chars)]⟩ = .ok v) :
    Variable.scan .standard (['<', '%', ' '] ++ w.chars ++ back) = .ok [v] := by
  have hconsumes : standardVariable.regex.Consumes := consumes_one _ _
  generalize htext : ['<', '%', ' '] ++ w.chars ++ back = text at hv ⊢
  have hmatch : standardVariable.regex.matchHere? (Place.ofText text) =
      some ⟨0, text.length, text, groups ++ [("name", w.chars)]⟩ := by
    have hrest : (Place.ofText text).rest = ['<', '%', ' '] ++ w.chars ++ back ++ [] := by
      rw [List.append_nil, htext]
      rfl
    have hnamed := matchHere?_named hfree (by rwa [List.append_nil]) hrest rfl
      (fun r hr => hbehind r (by rw [hr, List.append_nil]))
    rw [htext] at hnamed
    exact hnamed.trans (by rw [Place.ofText, Nat.zero_add])
  show (standardVariable.regex.allMatches text).mapM (Variable.ofMatch standardVariable.regex) = _
  rw [allMatches_whole hconsumes hmatch rfl, List.mapM_cons, hv, List.mapM_nil]
  rfl

/-- The matches in leaves that are printed from `pos` on. -/
def slotMatches : (pos : Nat) → List Leaf → List Match
  | _, [] => []
  | pos, .text t :: ls => slotMatches (pos + t.chars.length) ls
  | pos, .slot s :: ls =>
      ⟨pos, pos + s.print.length, s.print, s.groups⟩ :: slotMatches (pos + s.print.length) ls

/-- The variable tags in leaves that are printed from `pos` on. -/
def variableTags : (pos : Nat) → List Leaf → List Variable
  | _, [] => []
  | pos, .text t :: ls => variableTags (pos + t.chars.length) ls
  | pos, .slot s :: ls => s.variable pos :: variableTags (pos + s.print.length) ls

theorem sweep_matchHere? : ∀ {ls : List Leaf} {p : Place} {past : Nat}, p.groups = [] →
    p.rest = ls.flatMap Leaf.print → past ≤ p.pos →
    sweep Match.stop standardVariable.regex.matchHere? past p = slotMatches p.pos ls := by
  intro ls
  induction ls with
  | nil => intro p past _ hrest _; exact sweep_nil hrest
  | cons l ls ih =>
      intro p past hgroups hrest hpast
      rw [List.flatMap_cons] at hrest
      have hlength : l.print.length ≤ p.rest.length := by
        rw [hrest, List.length_append]
        omega
      have hnext : (p.skip l.print.length).rest = ls.flatMap Leaf.print := by
        rw [Place.skip_rest, hrest, List.drop_left]
      cases l with
      | text t =>
          have hnone : ∀ n, n < t.chars.length →
              standardVariable.regex.matchHere? (p.skip n) = none := by
            intro n hn
            have hhead : (p.skip n).rest.head? ≠ some '<' := by
              rw [Place.skip_rest, hrest, List.head?_drop]
              show (t.chars ++ _)[n]? ≠ _
              rw [List.getElem?_append_left hn]
              exact fun heq => t.plain (List.mem_of_getElem? heq)
            exact matchHere?_none hhead
          rw [sweep_pass hgroups hlength hnone]
          exact ih hgroups hnext (by rw [Place.skip_pos]; omega)
      | slot s =>
          have hpos : 0 < s.print.length := by simp [Slot.print]
          rw [sweep_take hgroups hpast (matchHere?_slot hrest hgroups) rfl hpos hlength,
            slotMatches]
          congr 1
          exact ih hgroups hnext (Nat.le_refl _)

/-- The variable tags of printed leaves are those that were printed. -/
theorem scan_leaves (ls : List Leaf) :
    Variable.scan .standard (ls.flatMap Leaf.print) = .ok (variableTags 0 ls) := by
  have hconsumes : standardVariable.regex.Consumes := consumes_one _ _
  have hmapM : ∀ pos, (slotMatches pos ls).mapM (Variable.ofMatch standardVariable.regex) =
      .ok (variableTags pos ls) := by
    induction ls with
    | nil => intro pos; rfl
    | cons l ls ih =>
        intro pos
        cases l with
        | text t => exact ih _
        | slot s =>
            rw [slotMatches, List.mapM_cons, ofMatch_slot, ok_bind, ih]
            rfl
  have hsweep := sweep_matchHere? (p := Place.ofText (ls.flatMap Leaf.print)) rfl rfl
    (Nat.le_refl 0)
  show (standardVariable.regex.allMatches _).mapM _ = _
  rw [allMatches_eq_sweep hconsumes, hsweep]
  exact hmapM 0

end Stencil.Printed
