import Mathlib.Data.List.Basic
import Stencil.Proofs.Regex.Step

/-!
# Matches that move

The matcher tries the ways through an expression in order of preference and
stops at the first one that lets the rest succeed. Whether there is such a
way does not depend on the order, so the matcher succeeds exactly if some
place that the expression can take the text to lets the rest succeed
(`run_takes`, `takes_run`).

The order matters for which match is found, but this is enough to carry a
match over from one text to another. An expression is local if what it takes
depends on the characters that it takes and on no others, which holds of
anything that does not look at what stands behind or in front.
-/

namespace Stencil.Regex

/-! ## The matcher finds what can be taken -/

theorem takes_rounds {step : Place → Continue → Option Place} {way : Place → Place → Prop}
    {greedy : Bool} {k : Continue}
    (hstep : ∀ p m k, way p m → (k m).isSome → (step p k).isSome) :
    ∀ {most least : Nat} {p m : Place}, TakesRounds way most least p m → (k m).isSome →
      (rounds step greedy k most least p).isSome := by
  intro most
  induction most with
  | zero =>
      rintro least p m rfl hk
      exact hk
  | succ most ih =>
      intro least p m hm hk
      cases least with
      | succ least =>
          obtain ⟨r, hr, hm⟩ := hm
          rw [rounds_least]
          exact hstep _ _ _ hr (ih hm hk)
      | zero =>
          have hround : (k p).isSome ∨ (step p fun r => if r.pos = p.pos then k r
              else rounds step greedy k most 0 r).isSome := by
            rcases hm with rfl | ⟨r, hr, hm⟩
            · exact .inl hk
            · refine .inr (hstep _ _ _ hr ?_)
              split at hm
              · next hsame => rwa [if_pos hsame, ← hm]
              · next hmoved => rw [if_neg hmoved]; exact ih hm hk
          rw [rounds_more]
          split
          · rwa [Option.isSome_or, Bool.or_eq_true, or_comm]
          · rwa [Option.isSome_or, Bool.or_eq_true]

/-- The matcher succeeds if the rest succeeds at a place that the expression
can reach. -/
theorem takes_run {r : Regex} : ∀ {p m : Place} {k : Continue}, r.Takes p m → (k m).isSome →
    (r.run p k).isSome := by
  induction r with
  | empty => rintro p m k rfl hk; exact hk
  | one c =>
      intro p m k h hk
      rw [run_one, show p.step? c = some m from h]
      exact hk
  | seq a b iha ihb =>
      rintro p m k ⟨m', ha, hb⟩ hk
      rw [run_seq]
      exact iha ha (ihb hb hk)
  | alt a b iha ihb =>
      intro p m k h hk
      rw [run_alt, Option.isSome_or, Bool.or_eq_true]
      exact h.imp (iha · hk) (ihb · hk)
  | «repeat» body least most greedy ih =>
      intro p m k h hk
      have hbody : ∀ p m k, body.Takes p m → (k m).isSome → (run body p k).isSome :=
        fun _ _ _ => ih
      rw [run_repeat]
      exact takes_rounds hbody h hk
  | group name body ih =>
      rintro p m k ⟨m', h, rfl⟩ hk
      rw [run_group]
      exact ih h hk
  | ahead refused body _ =>
      rintro p m k ⟨rfl, h⟩ hk
      rwa [run_ahead, if_pos (bne_iff_ne.2 h)]
  | wordEdge refused =>
      rintro p m k ⟨rfl, h⟩ hk
      rwa [run_wordEdge, if_pos (bne_iff_ne.2 h)]
  | start | stop | lastLine =>
      rintro p m k ⟨rfl, h⟩ hk
      simpa only [run_start, run_stop, run_lastLine, if_pos h] using hk

/-- If there is one place only from which the rest can succeed, the matcher
answers with what the rest gives there. -/
theorem run_eq_of_only {r : Regex} {p m : Place} {k : Continue} (hm : r.Takes p m)
    (honly : ∀ m', r.Takes p m' → (k m').isSome → m' = m) : r.run p k = k m := by
  cases hrun : r.run p k with
  | some q =>
      obtain ⟨m', hm', hk⟩ := run_takes hrun
      rw [← honly m' hm' (by rw [hk]; rfl), hk]
  | none =>
      cases hk : k m with
      | none => rfl
      | some q =>
          have hsome := takes_run hm (by rw [hk]; rfl : (k m).isSome)
          rw [hrun] at hsome
          cases hsome

theorem takes_of_run {r : Regex} {p q : Place} (h : r.run p some = some q) : r.Takes p q := by
  obtain ⟨_, htakes, ⟨⟩⟩ := run_takes h
  exact htakes

theorem matchAt?_isSome {r : Regex} {p : Place} :
    (r.matchAt? true p).isSome ↔ ∃ q, r.Takes p q := by
  rw [matchAt?_true]
  constructor
  · intro h
    obtain ⟨q, hq⟩ := Option.isSome_iff_exists.1 h
    exact ⟨q, takes_of_run hq⟩
  · rintro ⟨q, hq⟩
    exact takes_run hq rfl

/-! ## What derived expressions take -/

variable {p q : Place}

theorem takes_all_cons (r : Regex) (rs : List Regex) :
    (all (r :: rs)).Takes p q ↔ ∃ m, r.Takes p m ∧ (all rs).Takes m q := Iff.rfl

theorem takes_all_append (rs ss : List Regex) :
    (all (rs ++ ss)).Takes p q ↔ ∃ m, (all rs).Takes p m ∧ (all ss).Takes m q := by
  induction rs generalizing p with
  | nil => exact ⟨fun h => ⟨p, rfl, h⟩, by rintro ⟨_, rfl, h⟩; exact h⟩
  | cons r rs ih =>
      rw [List.cons_append, takes_all_cons]
      constructor
      · rintro ⟨m, hr, h⟩
        obtain ⟨m', hrs, hss⟩ := ih.1 h
        exact ⟨m', ⟨m, hr, hrs⟩, hss⟩
      · rintro ⟨m', ⟨m, hr, hrs⟩, hss⟩
        exact ⟨m, hr, ih.2 ⟨m', hrs, hss⟩⟩

theorem takes_optional (r : Regex) : (optional r).Takes p q ↔ q = p ∨ r.Takes p q := by
  show (q = p ∨ ∃ m, r.Takes p m ∧ if m.pos = p.pos then q = m else q = m) ↔ _
  refine or_congr Iff.rfl ⟨?_, fun h => ⟨q, h, by rw [ite_self]⟩⟩
  rintro ⟨m, hm, hq⟩
  rw [ite_self] at hq
  rwa [hq]

theorem takes_one (cl : CharClass) :
    (one cl).Takes p q ↔ (∃ c ∈ p.rest.head?, cl.holds c = true) ∧ q = p.skip 1 := by
  show p.step? cl = some q ↔ _
  cases hrest : p.rest with
  | nil => simp [Place.step?_nil cl hrest]
  | cons c cs =>
      rw [Place.step?_cons cl hrest]
      by_cases hc : cl.holds c = true
      · rw [if_pos hc, Option.some_inj, eq_comm]
        exact ⟨fun h => ⟨⟨c, rfl, hc⟩, h⟩, And.right⟩
      · rw [if_neg hc]
        constructor
        · rintro ⟨⟩
        · rintro ⟨⟨d, ⟨⟩, hd⟩, _⟩
          exact absurd hd hc

theorem takes_literal {word : List Char} : ∀ {p : Place}, (literal word).Takes p q ↔
    (∃ rest, p.rest = word ++ rest) ∧ q = p.skip word.length := by
  induction word with
  | nil =>
      intro p
      rw [List.length_nil, Place.skip_zero]
      exact ⟨fun h => ⟨⟨p.rest, rfl⟩, h⟩, And.right⟩
  | cons c word ih =>
      intro p
      show (∃ m, (one (.one c)).Takes p m ∧ (literal word).Takes m q) ↔ _
      simp only [takes_one, ih]
      constructor
      · rintro ⟨m, ⟨⟨d, hd, hc⟩, rfl⟩, ⟨rest, hrest⟩, rfl⟩
        obtain rfl : c = d := beq_iff_eq.1 hc
        refine ⟨⟨rest, ?_⟩, by rw [Place.skip_skip, List.length_cons, Nat.add_comm]⟩
        rw [List.cons_append, ← hrest, Place.skip_rest, List.drop_one]
        exact (List.cons_head?_tail hd).symm
      · rintro ⟨⟨rest, hrest⟩, rfl⟩
        refine ⟨p.skip 1, ⟨⟨c, by rw [hrest]; rfl, beq_self_eq_true c⟩, rfl⟩, ⟨rest, ?_⟩,
          by rw [Place.skip_skip, List.length_cons, Nat.add_comm]⟩
        rw [Place.skip_rest, hrest]
        rfl

theorem takes_first : ∀ {rs : List Regex}, rs ≠ [] →
    ((first rs).Takes p q ↔ ∃ r ∈ rs, r.Takes p q) := by
  intro rs
  induction rs with
  | nil => intro hne; exact absurd rfl hne
  | cons r rs ih =>
      intro _
      cases rs with
      | nil => simp [first]
      | cons s rs =>
          show (r.Takes p q ∨ (first (s :: rs)).Takes p q) ↔ _
          rw [ih (by simp)]
          exact (List.exists_mem_cons_iff (Takes · p q) r (s :: rs)).symm

theorem takesRounds_one (cl : CharClass) : ∀ {most least : Nat} {p : Place}, least ≤ most →
    (TakesRounds (one cl).Takes most least p q ↔ ∃ n, least ≤ n ∧ n ≤ most ∧ n ≤ p.rest.length ∧
      (∀ c ∈ p.rest.take n, cl.holds c = true) ∧ q = p.skip n) := by
  intro most
  induction most with
  | zero =>
      intro least p hle
      obtain rfl := Nat.le_zero.1 hle
      constructor
      · intro h
        exact ⟨0, Nat.le_refl 0, Nat.le_refl 0, Nat.zero_le _, by simp, by rwa [Place.skip_zero]⟩
      · rintro ⟨n, _, hn, _, _, rfl⟩
        rw [Nat.le_zero.1 hn, Place.skip_zero]
        rfl
  | succ most ih =>
      intro least p hle
      -- One round and then the others, which is one character and then the others.
      have hround : ∀ {least : Nat}, least ≤ most →
          ((∃ m, (one cl).Takes p m ∧ TakesRounds (one cl).Takes most least m q) ↔
            ∃ n, least ≤ n ∧ n ≤ most ∧ n + 1 ≤ p.rest.length ∧
              (∀ c ∈ p.rest.take (n + 1), cl.holds c = true) ∧ q = p.skip (n + 1)) := by
        intro least hle
        simp only [takes_one]
        cases hrest : p.rest with
        | nil => simp
        | cons c cs =>
            have hskip : (p.skip 1).rest = cs := by rw [Place.skip_rest, hrest]; rfl
            constructor
            · rintro ⟨m, ⟨hc, rfl⟩, hm⟩
              obtain ⟨n, h1, h2, h3, h4, rfl⟩ := (ih hle).1 hm
              rw [hskip] at h3 h4
              refine ⟨n, h1, h2, by simpa using h3, ?_, by rw [Place.skip_skip, Nat.add_comm]⟩
              simpa using ⟨by simpa using hc, h4⟩
            · rintro ⟨n, h1, h2, h3, h4, rfl⟩
              rw [List.take_succ_cons] at h4
              refine ⟨p.skip 1, ⟨⟨c, rfl, h4 c List.mem_cons_self⟩, rfl⟩, (ih hle).2 ?_⟩
              rw [hskip]
              exact ⟨n, h1, h2, by simpa using h3, fun d hd => h4 d (List.mem_cons_of_mem c hd),
                by rw [Place.skip_skip, Nat.add_comm]⟩
      cases least with
      | succ least =>
          refine (hround (Nat.le_of_succ_le_succ hle)).trans ⟨?_, ?_⟩
          · rintro ⟨n, h1, h2, h3⟩
            exact ⟨n + 1, by omega, by omega, h3⟩
          · rintro ⟨n, h1, h2, h3⟩
            obtain ⟨n, rfl⟩ : ∃ m, n = m + 1 := ⟨n - 1, by omega⟩
            exact ⟨n, by omega, by omega, h3⟩
      | zero =>
          have hmoved : ∀ {m}, (one cl).Takes p m → ¬ m.pos = p.pos := by
            intro m hm
            rw [((takes_one cl).1 hm).2, Place.skip_pos]
            omega
          have hplain : TakesRounds (one cl).Takes (most + 1) 0 p q ↔ q = p ∨
              ∃ m, (one cl).Takes p m ∧ TakesRounds (one cl).Takes most 0 m q := by
            refine or_congr Iff.rfl (exists_congr fun m => and_congr_right fun hm => ?_)
            rw [if_neg (hmoved hm)]
          rw [hplain, hround (Nat.zero_le most)]
          constructor
          · rintro (rfl | ⟨n, h1, h2, h3⟩)
            · exact ⟨0, by omega, by omega, by omega, by simp, by rw [Place.skip_zero]⟩
            · exact ⟨n + 1, by omega, by omega, h3⟩
          · rintro ⟨n, h1, h2, h3, h4, rfl⟩
            cases n with
            | zero => exact .inl (by rw [Place.skip_zero])
            | succ n => exact .inr ⟨n, by omega, by omega, h3, h4, rfl⟩

/-- A repetition of one character takes any number of characters of the class
that it may. -/
theorem takes_repeat_one (cl : CharClass) (least : Nat) (greedy : Bool) :
    (Regex.repeat (one cl) least none greedy).Takes p q ↔ ∃ n, least ≤ n ∧ n ≤ p.rest.length ∧
      (∀ c ∈ p.rest.take n, cl.holds c = true) ∧ q = p.skip n := by
  show TakesRounds (one cl).Takes (least + p.rest.length) least p q ↔ _
  rw [takesRounds_one cl (by omega)]
  constructor
  · rintro ⟨n, h1, _, h3⟩
    exact ⟨n, h1, h3⟩
  · rintro ⟨n, h1, h3, h4⟩
    exact ⟨n, h1, by omega, h3, h4⟩

/-! ## Groups -/

/-- What is taken leaves alone the groups that the expression does not have. -/
theorem Takes.lookup {r : Regex} {name : String} (hname : r.hasGroup name = false) : ∀ {p q : Place},
    r.Takes p q → q.groups.lookup name = p.groups.lookup name := by
  induction r with
  | empty => rintro p q rfl; rfl
  | one c =>
      intro p q h
      rw [((takes_one c).1 h).2]
      rfl
  | seq a b iha ihb =>
      rintro p q ⟨m, ha, hb⟩
      rw [hasGroup, Bool.or_eq_false_iff] at hname
      rw [ihb hname.2 hb, iha hname.1 ha]
  | alt a b iha ihb =>
      intro p q h
      rw [hasGroup, Bool.or_eq_false_iff] at hname
      exact h.elim (iha hname.1) (ihb hname.2)
  | «repeat» body least most greedy ih =>
      have hbody := fun {p q} => ih hname (p := p) (q := q)
      have hrounds : ∀ {most least p q}, TakesRounds body.Takes most least p q →
          q.groups.lookup name = p.groups.lookup name := by
        intro most
        induction most with
        | zero => rintro least p q rfl; rfl
        | succ most ih =>
            intro least p q h
            cases least with
            | succ least =>
                obtain ⟨m, hm, hq⟩ := h
                rw [ih hq, hbody hm]
            | zero =>
                rcases h with rfl | ⟨m, hm, hq⟩
                · rfl
                · rw [← hbody hm]
                  split at hq
                  · rw [hq]
                  · exact ih hq
      intro p q h
      exact hrounds h
  | group other body ih =>
      rintro p q ⟨m, h, rfl⟩
      rw [hasGroup, Bool.or_eq_false_iff, beq_eq_false_iff_ne] at hname
      rw [← ih hname.2 h]
      show ((other, _) :: m.groups).lookup name = _
      rw [List.lookup_cons, beq_false_of_ne (Ne.symm hname.1)]
  | ahead refused body _ => rintro p q ⟨rfl, _⟩; rfl
  | wordEdge refused => rintro p q ⟨rfl, _⟩; rfl
  | start | stop | lastLine => rintro p q ⟨rfl, _⟩; rfl

/-! ## Local expressions -/

/-- Two places with the same groups and the same `n` characters behind them. -/
structure Place.Alike (n : Nat) (p p' : Place) : Prop where
  groups : p'.groups = p.groups
  rest : p'.rest.take n = p.rest.take n

theorem Place.Alike.take {n m : Nat} {p p' : Place} (h : p.Alike n p') (hm : m ≤ n) :
    p'.rest.take m = p.rest.take m := by
  rw [← Nat.min_eq_left hm, ← List.take_take, h.rest, List.take_take]

theorem Place.Alike.head {n : Nat} {p p' : Place} (h : p.Alike n p') (hn : 0 < n) :
    p'.rest.head? = p.rest.head? := by
  have hhead := congrArg List.head? h.rest
  rwa [List.head?_take, List.head?_take, if_neg (Nat.pos_iff_ne_zero.1 hn),
    if_neg (Nat.pos_iff_ne_zero.1 hn)] at hhead

theorem Place.Alike.length {n : Nat} {p p' : Place} (h : p.Alike n p') (hn : n ≤ p.rest.length) :
    n ≤ p'.rest.length := by
  have hlength := congrArg List.length h.rest
  rw [List.length_take, List.length_take] at hlength
  omega

theorem Place.Alike.marked {n m : Nat} {p p' : Place} (h : p.Alike (n + m) p')
    (groups : List (String × List Char)) : (p.marked n groups).Alike m (p'.marked n groups) := by
  refine ⟨rfl, ?_⟩
  have hdrop := congrArg (List.drop n) h.rest
  rwa [List.drop_take, List.drop_take, Nat.add_sub_cancel_left] at hdrop

theorem Place.marked_inj {p : Place} {n m : Nat} {groups groups' : List (String × List Char)}
    (h : p.marked n groups = p.marked m groups') : n = m ∧ groups = groups' := by
  have hpos := congrArg Place.pos h
  rw [Place.marked_pos, Place.marked_pos] at hpos
  exact ⟨by omega, congrArg Place.groups h⟩

/-- Whether what the expression takes depends on the characters that it takes
and on no others. -/
def isLocal : Regex → Bool
  | .empty | .one _ => true
  | .seq a b | .alt a b => isLocal a && isLocal b
  | .repeat (.one _) _ none _ => true
  | .repeat r 0 (some 1) true => isLocal r
  | .group _ r => isLocal r
  | _ => false

/-- What a local expression takes at one place it takes wherever the same
characters stand. -/
theorem Takes.moved {r : Regex} (hr : r.isLocal = true) : ∀ {p p' : Place} {n : Nat}
    {groups : List (String × List Char)}, n ≤ p.rest.length → r.Takes p (p.marked n groups) →
    p.Alike n p' → r.Takes p' (p'.marked n groups) := by
  have hempty : ∀ {p p' : Place} {n : Nat} {groups : List (String × List Char)},
      p.marked n groups = p → p.Alike n p' → p'.marked n groups = p' := by
    intro p p' n groups h halike
    obtain ⟨rfl, rfl⟩ := Place.marked_inj (h.trans p.skip_zero.symm : _ = p.marked 0 p.groups)
    rw [← halike.groups]
    exact p'.skip_zero
  induction r using isLocal.induct with
  | case1 => intro p p' n groups _ h halike; exact hempty h halike
  | case2 cl =>
      intro p p' n groups _ h halike
      obtain ⟨hc, hskip⟩ := (takes_one cl).1 h
      obtain ⟨rfl, rfl⟩ := Place.marked_inj (hskip.trans (Place.skip_eq_marked p 1))
      refine (takes_one cl).2 ⟨?_, ?_⟩
      · rwa [halike.head Nat.one_pos]
      · rw [Place.skip_eq_marked, halike.groups]
  | case3 a b iha ihb =>
      rintro p p' n groups hn ⟨m, hpm, hmq⟩ halike
      rw [isLocal, Bool.and_eq_true] at hr
      obtain ⟨i, hi, hm⟩ : ∃ i, i ≤ p.rest.length ∧ m = p.marked i m.groups := hpm.reaches
      obtain ⟨j, hj, hq⟩ : ∃ j, j ≤ m.rest.length ∧ p.marked n groups = m.marked j groups :=
        hmq.reaches
      rw [hm, Place.marked_marked] at hq
      obtain ⟨rfl, -⟩ := Place.marked_inj hq
      rw [hm, Place.marked_rest] at hj
      rw [hm] at hpm hmq
      rw [← Place.marked_marked] at hmq
      refine ⟨p'.marked i m.groups,
        iha hr.1 hi hpm ⟨halike.groups, halike.take (Nat.le_add_right i j)⟩, ?_⟩
      have hnext := ihb hr.2 hj hmq (halike.marked m.groups)
      rwa [Place.marked_marked] at hnext
  | case4 a b iha ihb =>
      intro p p' n groups hn h halike
      rw [isLocal, Bool.and_eq_true] at hr
      exact h.imp (iha hr.1 hn · halike) (ihb hr.2 hn · halike)
  | case5 cl least greedy =>
      intro p p' n groups hn h halike
      obtain ⟨i, hleast, _, hcs, hskip⟩ := (takes_repeat_one cl least greedy).1 h
      obtain ⟨rfl, rfl⟩ := Place.marked_inj (hskip.trans (Place.skip_eq_marked p i))
      refine (takes_repeat_one cl least greedy).2 ⟨n, hleast, halike.length hn, ?_, ?_⟩
      · rwa [halike.rest]
      · rw [Place.skip_eq_marked, halike.groups]
  | case6 r ih =>
      intro p p' n groups hn h halike
      exact (takes_optional r).2 (((takes_optional r).1 h).imp (hempty · halike)
        (ih (by simpa only [isLocal] using hr) hn · halike))
  | case7 name r ih =>
      rintro p p' n groups hn ⟨m, hpm, hkeep⟩ halike
      obtain ⟨i, hi, hm⟩ : ∃ i, i ≤ p.rest.length ∧ m = p.marked i m.groups := hpm.reaches
      rw [hm, Place.keep_marked] at hkeep
      obtain ⟨rfl, rfl⟩ := Place.marked_inj hkeep
      rw [hm] at hpm
      refine ⟨p'.marked n m.groups, ih hr hn hpm halike, ?_⟩
      rw [Place.keep_marked, halike.rest]
  | case8 r =>
      rw [isLocal] at hr
      · cases hr
      all_goals assumption

end Stencil.Regex
