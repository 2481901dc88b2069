import Stencil.Proofs.Regex.Takes
import Stencil.Proofs.Template.PrintedTags

/-!
# What a variable tag looks like

A text begins with a variable tag if there is an opening with a name, which
is no reserved word, and behind it something that ends a tag. The name is
told by the text alone: it goes on as long as there are name characters,
since what may follow it begins with none. So wherever the characters of a
tag stand there is a tag again, perhaps a longer or a shorter one, but of the
same name.
-/

namespace Stencil.TagPattern

open Stencil.Regex Stencil.Text Stencil.Printed

variable {p p' q : Place} {cs lead name more : List Char}

/-! ## Reserved words -/

/-- A text that begins with a reserved word which ends there. -/
def Reserved (cs : List Char) : Prop :=
  ∃ word ∈ reservedWords, ∃ rest, cs = word ++ rest ∧ ∀ c ∈ rest.head?, isWordChar c = false

/-- Behind a reserved word a word ends unless a word character follows. -/
theorem atWordEdge_reserved {word rest : List Char} (hword : word ∈ reservedWords)
    (hrest : p.rest = word ++ rest) : (p.skip word.length).atWordEdge = true ↔
      ∀ c ∈ rest.head?, isWordChar c = false := by
  have hbefore : ((p.skip word.length).before.map isWordChar) = some true := by
    show (((p.rest.take word.length).getLast?.or p.before).map isWordChar) = some true
    rw [hrest, List.take_left]
    simp only [reservedWords, List.mem_cons, List.not_mem_nil, or_false] at hword
    rcases hword with rfl | rfl | rfl <;> exact congrArg some (by decide)
  have hbehind : (p.skip word.length).rest = rest := by
    rw [Place.skip_rest, hrest, List.drop_left]
  simp only [Place.atWordEdge, hbefore, hbehind]
  cases rest.head? <;> simp

theorem run_reserved : (run reserved p some).isSome ↔ Reserved p.rest := by
  have hfirst : ∀ {m}, (first [literal "if".toList, literal "else".toList,
      literal "endif".toList]).Takes p m ↔ ∃ word ∈ reservedWords, (literal word).Takes p m := by
    intro m
    show (_ ∨ _ ∨ _) ↔ _
    simp [reservedWords, Regex.first]
  rw [← matchAt?_true, matchAt?_isSome]
  simp only [reserved, takes_all_cons, hfirst, takes_literal]
  constructor
  · rintro ⟨q, m, ⟨word, hword, ⟨rest, hrest⟩, rfl⟩, m', ⟨rfl, hedge⟩, _⟩
    exact ⟨word, hword, rest, hrest, (atWordEdge_reserved hword hrest).1 (by simpa using hedge)⟩
  · rintro ⟨word, hword, rest, hrest, hhead⟩
    have hedge := (atWordEdge_reserved hword hrest).2 hhead
    exact ⟨_, _, ⟨word, hword, ⟨rest, hrest⟩, rfl⟩, _, ⟨rfl, by simpa using hedge⟩, rfl⟩

/-! ## Up to the name -/

/-- A text that begins like a variable tag, with what stands between the
opening and the name, the name, and what is behind it. -/
structure Opens (cs lead name more : List Char) : Prop where
  split : cs = '<' :: '%' :: (lead ++ (name ++ more))
  gap : lead = [] ∨ ∃ c, lead = [c] ∧ isBlank c = true
  nonempty : name ≠ []
  plain : ∀ c ∈ name, isNameChar c = true
  ends : ∀ c ∈ more.head?, isNameChar c = false
  free : ¬ Reserved (name ++ more)

theorem Opens.gapLength_eq (h : Opens cs lead name more) :
    gapLength (lead ++ (name ++ more)) = lead.length := by
  obtain ⟨c, name', hname⟩ := List.exists_cons_of_ne_nil h.nonempty
  have hc : isBlank c = false := isNameChar_notBlank (h.plain c (by rw [hname]; simp))
  rcases h.gap with rfl | ⟨b, rfl, hb⟩
  · simp [hname, gapLength, hc]
  · simp [gapLength, hb]

theorem Opens.name_eq (h : Opens cs lead name more) :
    name = (name ++ more).takeWhile isNameChar := by
  have hmore : more.takeWhile isNameChar = [] := by
    cases hcs : more with
    | nil => rfl
    | cons c cs => rw [List.takeWhile_cons, h.ends c (by rw [hcs]; rfl), if_neg Bool.false_ne_true]
  rw [List.takeWhile_append_of_pos h.plain, hmore, List.append_nil]

/-- A text that opens a variable tag does so in one way. -/
theorem Opens.unique {lead' name' more' : List Char} (h : Opens cs lead name more)
    (h' : Opens cs lead' name' more') : lead = lead' ∧ name = name' := by
  have hsplit : lead ++ (name ++ more) = lead' ++ (name' ++ more') := by
    have hcs := h.split.symm.trans h'.split
    rwa [List.cons.injEq, List.cons.injEq, and_iff_right rfl, and_iff_right rfl] at hcs
  have hlead : lead.length = lead'.length := by
    rw [← h.gapLength_eq, hsplit, h'.gapLength_eq]
  have hsame := List.append_inj hsplit hlead
  exact ⟨hsame.1, by rw [h.name_eq, hsame.2, ← h'.name_eq]⟩

/-- Whether a word is reserved depends on the character behind it, not on those
that follow. -/
theorem Reserved.of_head {more' : List Char} (h : Reserved (name ++ more'))
    (hends : ∀ c ∈ more'.head?, isNameChar c = false) (hhead : more'.head? = more.head?) :
    Reserved (name ++ more) := by
  obtain ⟨word, hword, rest, hsplit, hrest⟩ := h
  by_cases hname : name = word
  · subst hname
    rw [← List.append_cancel_left hsplit, hhead] at hrest
    exact ⟨name, hword, more, rfl, hrest⟩
  · obtain ⟨d, back, rfl, rfl⟩ := word_split (isNameChar_reserved hword) hname hends hsplit
    refine ⟨word, hword, d :: back ++ more, by simp, ?_⟩
    rintro c ⟨⟩
    exact hrest d rfl

/-- An opening is told by the characters up to the one behind the name. -/
theorem Opens.moved {n : Nat} {cs' : List Char} (h : Opens cs lead name more)
    (hn : 2 + lead.length + name.length < n) (htake : cs'.take n = cs.take n) :
    ∃ more', Opens cs' lead name more' := by
  have hsplit : ∀ back, '<' :: '%' :: (lead ++ (name ++ back)) =
      ('<' :: '%' :: (lead ++ name)) ++ back := by simp
  have hlength : ('<' :: '%' :: (lead ++ name)).length = 2 + lead.length + name.length := by
    simp; omega
  have hcs := h.split.trans (hsplit more)
  rw [← hlength] at hn
  generalize '<' :: '%' :: (lead ++ name) = front at hsplit hcs hn
  have hfront : cs'.take front.length = front := by
    rw [← Nat.min_eq_left (Nat.le_of_lt hn), ← List.take_take, htake, List.take_take,
      Nat.min_eq_left (Nat.le_of_lt hn), hcs, List.take_left]
  have hhead : (cs'.drop front.length).head? = more.head? := by
    have hdrop := congrArg (fun l => (l.drop front.length).head?) htake
    simp only [List.drop_take, List.head?_take, Nat.sub_ne_zero_of_lt hn, if_false] at hdrop
    rw [hdrop, hcs, List.drop_left]
  refine ⟨cs'.drop front.length, ?_, h.gap, h.nonempty, h.plain, ?_, fun hfree => h.free ?_⟩
  · have hcs' := List.take_append_drop front.length cs'
    rw [hfront] at hcs'
    rw [hsplit, hcs']
  · rw [hhead]
    exact h.ends
  · exact hfree.of_head (by rw [hhead]; exact h.ends) hhead

/-! ## The whole tag -/

/-- A variable tag up to its name. -/
def frontPart : List Regex :=
  [.one (.one '<'), .one (.one '%'), gap, .group "name" (.all [.ahead true reserved, nameWord])]

/-- What is behind the name of a variable tag. -/
def backPart : List Regex :=
  [.optional (.group "default" defaultPart), .optional (.group "filter" filterPart), gap,
    .one (.one '%'), .one (.one '>')]

theorem takes_char {c : Char} : (one (.one c)).Takes p q ↔
    ∃ rest, p.rest = c :: rest ∧ q = p.skip 1 := by
  rw [takes_one]
  constructor
  · rintro ⟨⟨d, hd, hc⟩, rfl⟩
    obtain rfl : c = d := beq_iff_eq.1 hc
    exact ⟨p.rest.tail, (List.cons_head?_tail hd).symm, rfl⟩
  · rintro ⟨rest, hrest, rfl⟩
    exact ⟨⟨c, by rw [hrest]; rfl, beq_self_eq_true c⟩, rfl⟩

theorem takes_gap : gap.Takes p q ↔ ∃ lead rest, p.rest = lead ++ rest ∧
    (lead = [] ∨ ∃ c, lead = [c] ∧ isBlank c = true) ∧ q = p.skip lead.length := by
  rw [gap, takes_optional, Regex.blank, takes_one]
  simp only [holds_blank]
  constructor
  · rintro (rfl | ⟨⟨c, hc, hblank⟩, rfl⟩)
    · exact ⟨[], q.rest, rfl, .inl rfl, q.skip_zero.symm⟩
    · exact ⟨[c], p.rest.tail, (List.cons_head?_tail hc).symm, .inr ⟨c, rfl, hblank⟩, rfl⟩
  · rintro ⟨lead, rest, hrest, rfl | ⟨c, rfl, hblank⟩, rfl⟩
    · exact .inl p.skip_zero
    · exact .inr ⟨⟨c, by rw [hrest]; rfl, hblank⟩, rfl⟩

theorem takes_nameWord : nameWord.Takes p q ↔ ∃ name rest, p.rest = name ++ rest ∧ name ≠ [] ∧
    (∀ c ∈ name, isNameChar c = true) ∧ q = p.skip name.length := by
  rw [nameWord, some1, oneOf, takes_repeat_one]
  constructor
  · rintro ⟨n, hn, hle, hcs, rfl⟩
    have hlength : (p.rest.take n).length = n := List.length_take_of_le hle
    refine ⟨p.rest.take n, p.rest.drop n, (List.take_append_drop n p.rest).symm, ?_, hcs, ?_⟩
    · intro hnil
      rw [hnil, List.length_nil] at hlength
      omega
    · rw [hlength]
  · rintro ⟨name, rest, hrest, hne, hcs, rfl⟩
    refine ⟨name.length, List.length_pos_iff.2 hne, ?_, ?_, rfl⟩
    · rw [hrest, List.length_append]
      omega
    · rwa [hrest, List.take_left]

/-- What is taken begins with no character of a word, and is not empty. -/
def LeavesWord (p q : Place) : Prop :=
  (∀ c ∈ p.rest.head?, isWordChar c = false) ∧ p.pos < q.pos

theorem LeavesWord.notName (h : LeavesWord p q) : ∀ c ∈ p.rest.head?, isNameChar c = false := by
  intro c hc
  cases hname : isNameChar c with
  | false => rfl
  | true =>
      have hword := h.1 c hc
      rw [isWordChar_of_nameChar hname] at hword
      cases hword

theorem leavesWord_char {c : Char} {rs : List Regex} (hc : isWordChar c = false)
    (h : (all (.one (.one c) :: rs)).Takes p q) : LeavesWord p q := by
  obtain ⟨m, hone, hmore⟩ := h
  obtain ⟨rest, hrest, rfl⟩ := takes_char.1 hone
  have hle := hmore.reaches.bounds.1
  rw [Place.skip_pos] at hle
  refine ⟨?_, by omega⟩
  rw [hrest]
  rintro _ ⟨⟩
  exact hc

theorem leavesWord_optional {c : Char} {rs : List Regex} {part : String}
    (hc : isWordChar c = false)
    (h : (optional (.group part (all (.one (.one c) :: rs)))).Takes p q) :
    q = p ∨ LeavesWord p q := by
  refine ((takes_optional _).1 h).imp id ?_
  rintro ⟨m, hm, rfl⟩
  have hleaves := leavesWord_char hc hm
  exact hleaves

theorem leavesWord_backPart (h : (all backPart).Takes p q) : LeavesWord p q := by
  -- Each part takes something, or the next one begins where it does.
  have hnext : ∀ {m m' : Place}, (m' = m ∨ LeavesWord m m') → LeavesWord m' q →
      LeavesWord m q := by
    rintro m m' (rfl | ⟨hhead, hlt⟩) hrest
    · exact hrest
    · exact ⟨hhead, hlt.trans hrest.2⟩
  obtain ⟨m₁, hdefault, m₂, hfilter, m₃, hgap, hend⟩ := h
  refine hnext (leavesWord_optional (by decide) hdefault)
    (hnext (leavesWord_optional (by decide) hfilter)
      (hnext ?_ (leavesWord_char (by decide) hend)))
  obtain ⟨lead, rest, hrest, rfl | ⟨c, rfl, hblank⟩, rfl⟩ := takes_gap.1 hgap
  · exact .inl m₂.skip_zero
  · refine .inr ⟨?_, by rw [Place.skip_pos, List.length_singleton]; omega⟩
    rw [hrest]
    rintro _ ⟨⟩
    exact isBlank_notWord hblank

/-- The place behind a name, with the name kept. -/
theorem keep_name {n : Nat} (hname : (p.skip n).rest = name ++ more) :
    (p.skip n).keep "name" ((p.skip n).skip name.length) =
      p.marked (n + name.length) (("name", name) :: p.groups) := by
  rw [Place.skip_eq_marked (p.skip n), Place.keep_marked, hname, List.take_left,
    Place.skip_eq_marked p, Place.marked_marked]
  rfl

/-- If no name character is behind it, the name is the one that the text opens
with. -/
theorem takes_frontPart (hends : ∀ c ∈ q.rest.head?, isNameChar c = false) :
    (all frontPart).Takes p q ↔ ∃ lead name more, Opens p.rest lead name more ∧
      q = p.marked (2 + lead.length + name.length) (("name", name) :: p.groups) := by
  constructor
  · rintro ⟨_, hopen, _, hpercent, _, hgap, _, ⟨_, ⟨_, ⟨rfl, hfree⟩, _, hword, rfl⟩, rfl⟩, hend⟩
    obtain ⟨rest, hrest, rfl⟩ := takes_char.1 hopen
    obtain ⟨rest', hrest', rfl⟩ := takes_char.1 hpercent
    rw [Place.skip_skip] at hgap
    obtain ⟨lead, back, hlead, hblank, rfl⟩ := takes_gap.1 hgap
    rw [Place.skip_skip] at hword hfree hend
    obtain ⟨name, more, hname, hne, hplain, rfl⟩ := takes_nameWord.1 hword
    obtain rfl : q =
        (p.skip (2 + lead.length)).keep "name" ((p.skip (2 + lead.length)).skip name.length) := hend
    rw [keep_name hname] at hends ⊢
    have hbehind : (p.skip (2 + lead.length + name.length)).rest = more := by
      rw [← Place.skip_skip, Place.skip_rest, hname, List.drop_left]
    rw [Place.marked_rest, ← Place.skip_rest, hbehind] at hends
    refine ⟨lead, name, more, ⟨?_, hblank, hne, hplain, hends, ?_⟩, rfl⟩
    · have hback : back = name ++ more := by
        rw [← hname, ← Place.skip_skip, Place.skip_rest, hlead, List.drop_left]
      have hopened : rest = '%' :: rest' := by
        rw [← hrest', Place.skip_rest, hrest]
        rfl
      have hlead' : rest' = lead ++ back := by
        rw [← hlead, Place.skip_rest, hrest, hopened]
        rfl
      rw [hrest, hopened, hlead', hback]
    · rw [← hname]
      exact fun h => hfree (run_reserved.2 h)
  · rintro ⟨lead, name, more, h, rfl⟩
    have hlead : (p.skip 2).rest = lead ++ (name ++ more) := by
      rw [Place.skip_rest, h.split]
      rfl
    have hname : (p.skip (2 + lead.length)).rest = name ++ more := by
      rw [← Place.skip_skip, Place.skip_rest, hlead, List.drop_left]
    have hpercent : (p.skip 1).rest = '%' :: (lead ++ (name ++ more)) := by
      rw [Place.skip_rest, h.split]
      rfl
    have hfree : (run reserved (p.skip (2 + lead.length)) some).isSome ≠ true := by
      rw [Ne, run_reserved, hname]
      exact h.free
    have hword := takes_nameWord.2 ⟨name, more, hname, h.nonempty, h.plain, rfl⟩
    rw [← keep_name hname]
    refine ⟨p.skip 1, takes_char.2 ⟨_, h.split, rfl⟩, p.skip 2, ?_, p.skip (2 + lead.length), ?_,
      _, ⟨_, ⟨_, ⟨rfl, hfree⟩, _, hword, rfl⟩, rfl⟩, rfl⟩
    · exact takes_char.2 ⟨_, hpercent, by rw [Place.skip_skip]⟩
    · exact takes_gap.2 ⟨lead, _, hlead, h.gap, by rw [Place.skip_skip]⟩

theorem standardVariable_parts : standardVariable.regex = all (frontPart ++ backPart) := rfl

theorem Opens.marked_rest (h : Opens p.rest lead name more)
    (groups : List (String × List Char)) :
    (p.marked (2 + lead.length + name.length) groups).rest = more := by
  have hlength : 2 + lead.length + name.length = ('<' :: '%' :: (lead ++ name)).length := by
    simp
    omega
  have hsplit : p.rest = '<' :: '%' :: (lead ++ name) ++ more := by rw [h.split]; simp
  rw [Place.marked_rest, hlength, hsplit, List.drop_left]

theorem Opens.marked_ends {groups : List (String × List Char)} (h : Opens p.rest lead name more) :
    ∀ c ∈ (p.marked (2 + lead.length + name.length) groups).rest.head?, isNameChar c = false := by
  rw [h.marked_rest]
  exact h.ends

/-- If a tag goes on behind it, the name is no reserved word. -/
theorem Opens.name_free {groups : List (String × List Char)} (h : Opens p.rest lead name more)
    (hback : (all backPart).Takes (p.marked (2 + lead.length + name.length) groups) q) :
    name ∉ reservedWords := by
  intro hname
  have hends := (leavesWord_backPart hback).1
  rw [h.marked_rest] at hends
  exact h.free ⟨name, hname, more, rfl, hends⟩

/-- A variable tag is an opening with a name, and what is behind the name. -/
theorem takes_standardVariable : standardVariable.regex.Takes p q ↔
    ∃ lead name more, Opens p.rest lead name more ∧
      (all backPart).Takes (p.marked (2 + lead.length + name.length) (("name", name) :: p.groups))
        q := by
  rw [standardVariable_parts, takes_all_append]
  constructor
  · rintro ⟨m, hfront, hback⟩
    obtain ⟨lead, name, more, h, rfl⟩ := (takes_frontPart (leavesWord_backPart hback).notName).1 hfront
    exact ⟨lead, name, more, h, hback⟩
  · rintro ⟨lead, name, more, h, hback⟩
    exact ⟨_, (takes_frontPart h.marked_ends).2 ⟨lead, name, more, h, rfl⟩, hback⟩

/-- Up to the name there is nothing to choose: a tag is matched as what is
behind its name is. -/
theorem run_standardVariable (h : Opens p.rest lead name more) :
    run standardVariable.regex p some = run (all backPart)
      (p.marked (2 + lead.length + name.length) (("name", name) :: p.groups)) some := by
  rw [standardVariable_parts, run_all_append]
  refine run_eq_of_only ((takes_frontPart h.marked_ends).2 ⟨lead, name, more, h, rfl⟩)
    fun m hm hk => ?_
  obtain ⟨q, hq⟩ := Option.isSome_iff_exists.1 hk
  obtain ⟨q', hback, _⟩ := run_takes hq
  obtain ⟨lead', name', more', h', rfl⟩ := (takes_frontPart (leavesWord_backPart hback).notName).1 hm
  obtain ⟨rfl, rfl⟩ := h.unique h'
  rfl

/-- The name that a variable tag keeps is the one that the text opens with, and
no reserved word. -/
theorem takes_name (h : standardVariable.regex.Takes p q) : ∃ lead name more,
    Opens p.rest lead name more ∧ name ∉ reservedWords ∧
      q.groups.lookup "name" = some name := by
  obtain ⟨lead, name, more, hopens, hback⟩ := takes_standardVariable.1 h
  refine ⟨lead, name, more, hopens, hopens.name_free hback, ?_⟩
  rw [hback.lookup (by decide)]
  rfl

/-- What a variable tag takes can be taken wherever the same characters stand. -/
theorem takes_moved {n : Nat} {groups : List (String × List Char)} (hn : n ≤ p.rest.length)
    (h : standardVariable.regex.Takes p (p.marked n groups)) (halike : p.Alike n p') :
    standardVariable.regex.Takes p' (p'.marked n groups) := by
  obtain ⟨lead, name, more, hopens, hback⟩ := takes_standardVariable.1 h
  -- The tag ends `j` characters behind the name.
  obtain ⟨j, hj, hend⟩ : ∃ j, j ≤ (p.rest.drop (2 + lead.length + name.length)).length ∧
      p.marked n groups =
        (p.marked (2 + lead.length + name.length) (("name", name) :: p.groups)).marked j groups :=
    hback.reaches
  obtain ⟨rfl, -⟩ := Place.marked_inj (hend.trans (Place.marked_marked ..))
  have hlt := (leavesWord_backPart hback).2
  rw [Place.marked_pos, Place.marked_pos] at hlt
  obtain ⟨more', hopens'⟩ := hopens.moved (by omega) halike.rest
  have hlocal : (all backPart).isLocal = true := by decide
  rw [hend] at hback
  have hmoved := hback.moved hlocal hj (halike.marked _)
  rw [Place.marked_marked, ← halike.groups] at hmoved
  exact takes_standardVariable.2 ⟨lead, name, more', hopens', hmoved⟩

/-- Where the characters of a variable tag stand there begins a variable tag of
the same name. -/
theorem matchHere?_moved {m : Match} (h : standardVariable.regex.matchHere? p = some m)
    (hgroups : p'.groups = p.groups)
    (htake : p'.rest.take (m.stop - m.start) = p.rest.take (m.stop - m.start)) :
    ∃ m', standardVariable.regex.matchHere? p' = some m' ∧ m'.group? "name" = m.group? "name" := by
  obtain ⟨n, groups, hn, hrun, rfl⟩ := exists_of_matchHere? h
  rw [Nat.add_sub_cancel_left] at htake
  have hmoved := takes_moved hn (takes_of_run hrun) ⟨hgroups, htake⟩
  obtain ⟨q', hrun'⟩ : ∃ q', standardVariable.regex.run p' some = some q' :=
    Option.isSome_iff_exists.1 (takes_run hmoved rfl)
  -- Both names are the one that the text opens with.
  obtain ⟨lead, name, more, hopens, _, hname⟩ := takes_name hmoved
  obtain ⟨lead', name', more', hopens', _, hname'⟩ := takes_name (takes_of_run hrun')
  refine ⟨Match.between p' q', by rw [matchHere?, matchAt?_true, hrun', Option.map_some], ?_⟩
  show q'.groups.lookup "name" = groups.lookup "name"
  rw [hname', (hopens'.unique hopens).2, ← hname]
  rfl

end Stencil.TagPattern
