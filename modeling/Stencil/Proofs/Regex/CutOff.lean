import Stencil.Proofs.Regex.Takes

/-!
# Matches in a text that is cut off

The text behind a match has a say in which match it is: a way that comes first
in the order of preference may fail far behind the place where the match ends.
But it can only refuse. If the text ends where the match does, no way through
a local expression succeeds that did not succeed before, and the way that was
found is still there. So the same match is found, with the same groups.

The proof keeps two runs in step, one in the text and one in what is left of
it. A place and its counterpart are related by `Place.Cut`, outcomes by
`Agrees`, and what each constructor of an expression does is to carry over the
agreement of what comes behind it (`Agree.outcome_before`).
-/

namespace Stencil.Regex

/-- The second place is the first one in a text that has lost the characters
up to `lost` and those from `stop` on. -/
structure Place.Cut (lost stop : Nat) (p p' : Place) : Prop where
  groups : p'.groups = p.groups
  pos : p.pos = lost + p'.pos
  rest : p'.rest <+: p.rest
  stop : p.pos + p'.rest.length = stop

/-- The outcome in the cut text is the same if the one in the text is the
match that ends at `q`, or is none. -/
structure Agrees (lost : Nat) (q : Place) (a a' : Option Place) : Prop where
  found : a = some q → ∃ q', a' = some q' ∧ q.Cut lost q.pos q'
  refused : a = none → a' = none

/-- Going on in the cut text agrees with going on in the text, where only a
place in front of `q` leads to `q`. -/
structure Agree (lost : Nat) (q : Place) (k k' : Continue) : Prop where
  outcome : ∀ {p p' : Place}, p.Cut lost q.pos p' → Agrees lost q (k p) (k' p')
  forward : ∀ {p : Place}, k p = some q → p.pos ≤ q.pos

variable {lost stop : Nat} {p p' q : Place} {k k' : Continue}

/-! ## Places -/

theorem Place.Cut.marked {n : Nat} (h : p.Cut lost stop p') (hn : n ≤ p'.rest.length)
    (groups : List (String × List Char)) :
    (p.marked n groups).Cut lost stop (p'.marked n groups) := by
  have hpos := h.pos
  have hstop := h.stop
  refine ⟨rfl, ?_, ?_, ?_⟩
  · rw [Place.marked_pos, Place.marked_pos]
    omega
  · obtain ⟨behind, hbehind⟩ := h.rest
    rw [Place.marked_rest, Place.marked_rest, ← hbehind, List.drop_append_of_le_length hn]
    exact List.prefix_append _ behind
  · rw [Place.marked_pos, Place.marked_rest, List.length_drop]
    omega

theorem Place.Cut.cons {c : Char} {cs : List Char} (h : p.Cut lost stop p')
    (hrest : p'.rest = c :: cs) :
    (∃ more, p.rest = c :: more) ∧ (p.skip 1).Cut lost stop (p'.skip 1) := by
  have hone : 1 ≤ p'.rest.length := by rw [hrest, List.length_cons]; omega
  have hskip := h.marked hone p.groups
  obtain ⟨behind, hbehind⟩ := h.rest
  rw [hrest, List.cons_append] at hbehind
  refine ⟨⟨_, hbehind.symm⟩, ?_⟩
  rwa [Place.skip_eq_marked, Place.skip_eq_marked, h.groups]

theorem Place.Cut.keep {m m' : Place} (name : String) (h : p.Cut lost stop p')
    (hm : m.Cut lost stop m') : (p.keep name m).Cut lost stop (p'.keep name m') := by
  have hlength : m.pos - p.pos = m'.pos - p'.pos := by
    have hp := h.pos
    have hm := hm.pos
    omega
  have hinside : m'.pos - p'.pos ≤ p'.rest.length := by
    have hp := h.stop
    have hm := hm.stop
    omega
  have htext : p'.rest.take (m'.pos - p'.pos) = p.rest.take (m.pos - p.pos) := by
    obtain ⟨behind, hbehind⟩ := h.rest
    rw [hlength, ← hbehind, List.take_append_of_le_length hinside]
  refine ⟨?_, hm.pos, hm.rest, hm.stop⟩
  show (name, p'.rest.take (m'.pos - p'.pos)) :: m'.groups = _ :: m.groups
  rw [htext, hm.groups]

/-! ## Outcomes -/

theorem agrees_none (lost : Nat) (q : Place) : Agrees lost q none none :=
  ⟨fun h => (by cases h), fun _ => rfl⟩

/-- The second outcome counts where the first is none. -/
theorem Agrees.or {a a' b b' : Option Place} (ha : Agrees lost q a a') (hb : Agrees lost q b b') :
    Agrees lost q (a.or b) (a'.or b') := by
  cases a with
  | none => rwa [ha.refused rfl, Option.none_or, Option.none_or]
  | some r =>
      refine ⟨fun h => ?_, fun h => (by cases h)⟩
      obtain ⟨q', rfl, hcut⟩ := ha.found h
      exact ⟨q', rfl, hcut⟩

/-- One character further on. In the cut text there may be none, but then the
match does not end behind it either. -/
theorem Agrees.step {f f' : Continue} (cl : CharClass) (h : p.Cut lost q.pos p')
    (hnext : ∀ c cs, p'.rest = c :: cs → (p.skip 1).Cut lost q.pos (p'.skip 1) →
      Agrees lost q (f (p.skip 1)) (f' (p'.skip 1)))
    (hforward : f (p.skip 1) = some q → (p.skip 1).pos ≤ q.pos) :
    Agrees lost q ((p.step? cl).bind f) ((p'.step? cl).bind f') := by
  cases hrest : p'.rest with
  | nil =>
      have hend := h.stop
      rw [hrest, List.length_nil] at hend
      rw [Place.step?_nil cl hrest, Option.bind_none]
      refine ⟨fun hfound => ?_, fun _ => rfl⟩
      obtain ⟨m, hm, hfound⟩ := Option.bind_eq_some_iff.1 hfound
      rw [((takes_one cl).1 hm).2] at hfound
      have hle := hforward hfound
      rw [Place.skip_pos] at hle
      omega
  | cons c cs =>
      obtain ⟨⟨more, hmore⟩, hcut⟩ := h.cons hrest
      rw [Place.step?_cons cl hrest, Place.step?_cons cl hmore]
      split
      · exact hnext c cs hrest hcut
      · exact agrees_none lost q

/-! ## Expressions -/

theorem agree_some (lost : Nat) (q : Place) : Agree lost q some some where
  outcome := by
    intro p p' h
    refine ⟨fun hp => ?_, fun hp => (by cases hp)⟩
    cases hp
    exact ⟨p', rfl, h⟩
  forward := by
    rintro p ⟨⟩
    exact Nat.le_refl _

theorem Agree.run_forward {r : Regex} (h : Agree lost q k k') (hrun : r.run p k = some q) :
    p.pos ≤ q.pos := by
  obtain ⟨m, hreach, hm⟩ := run_reaches hrun
  exact Nat.le_trans hreach.bounds.1 (h.forward hm)

/-- Any number of characters, by induction on what is left of the cut text. -/
theorem Agree.many {cl : CharClass} {greedy : Bool} (h : Agree lost q k k') :
    ∀ {p p' : Place}, p.Cut lost q.pos p' →
      Agrees lost q (run (.repeat (.one cl) 0 none greedy) p k)
        (run (.repeat (.one cl) 0 none greedy) p' k') := by
  have hround : ∀ {p p' : Place}, p.Cut lost q.pos p' →
      (∀ c cs, p'.rest = c :: cs → (p.skip 1).Cut lost q.pos (p'.skip 1) →
        Agrees lost q (run (.repeat (.one cl) 0 none greedy) (p.skip 1) k)
          (run (.repeat (.one cl) 0 none greedy) (p'.skip 1) k')) →
      Agrees lost q (run (.repeat (.one cl) 0 none greedy) p k)
        (run (.repeat (.one cl) 0 none greedy) p' k') := by
    intro p p' hcut hnext
    have hmore : Agrees lost q
        ((p.step? cl).bind fun m => run (.repeat (.one cl) 0 none greedy) m k)
        ((p'.step? cl).bind fun m => run (.repeat (.one cl) 0 none greedy) m k') :=
      .step cl hcut hnext h.run_forward
    rw [run_repeat_one, run_repeat_one]
    split
    · exact hmore.or (h.outcome hcut)
    · exact (h.outcome hcut).or hmore
  intro p p' hcut
  induction p' using Place.along generalizing p with
  | nil p' hrest => exact hround hcut fun c cs hcs => by rw [hrest] at hcs; cases hcs
  | cons p' c cs hrest ih => exact hround hcut fun _ _ _ hcut' => ih hcut'

theorem Agree.repeated {cl : CharClass} {greedy : Bool} (h : Agree lost q k k') : ∀ {least : Nat}
    {p p' : Place}, p.Cut lost q.pos p' →
      Agrees lost q (run (.repeat (.one cl) least none greedy) p k)
        (run (.repeat (.one cl) least none greedy) p' k') := by
  intro least
  induction least with
  | zero => exact h.many
  | succ least ih =>
      intro p p' hcut
      rw [run_repeat_one_succ, run_repeat_one_succ]
      exact .step cl hcut (fun _ _ _ hcut' => ih hcut') h.run_forward

/-- A local expression carries over the agreement of what comes behind it. -/
theorem Agree.outcome_before {r : Regex} (hr : r.isLocal = true) : ∀ {k k' : Continue},
    Agree lost q k k' → ∀ {p p' : Place}, p.Cut lost q.pos p' →
      Agrees lost q (r.run p k) (r.run p' k') := by
  induction r using isLocal.induct with
  | case1 => intro k k' h p p' hcut; exact h.outcome hcut
  | case2 cl =>
      intro k k' h p p' hcut
      exact .step cl hcut (fun _ _ _ hcut' => h.outcome hcut') h.forward
  | case3 a b iha ihb =>
      intro k k' h p p' hcut
      rw [isLocal, Bool.and_eq_true] at hr
      exact iha hr.1 ⟨ihb hr.2 h, h.run_forward⟩ hcut
  | case4 a b iha ihb =>
      intro k k' h p p' hcut
      rw [isLocal, Bool.and_eq_true] at hr
      rw [run_alt, run_alt]
      exact (iha hr.1 h hcut).or (ihb hr.2 h hcut)
  | case5 cl least greedy => intro k k' h p p' hcut; exact h.repeated hcut
  | case6 r ih =>
      intro k k' h p p' hcut
      have hoptional : ∀ p k, run (.repeat r 0 (some 1) true) p k = (run r p k).or (k p) :=
        fun _ _ => run_optional r
      rw [hoptional, hoptional]
      exact (ih (by simpa only [isLocal] using hr) h hcut).or (h.outcome hcut)
  | case7 name r ih =>
      intro k k' h p p' hcut
      rw [run_group, run_group]
      exact ih hr ⟨fun hcut' => h.outcome (hcut.keep name hcut'), h.forward⟩ hcut
  | case8 r =>
      rw [isLocal] at hr
      · cases hr
      all_goals assumption

/-- What a local expression matches up to the end of a text it matches if the
text goes no further. -/
theorem run_cutOff {r : Regex} (hr : r.isLocal = true) (h : p.Cut lost q.pos p')
    (hrun : r.run p some = some q) : ∃ q', r.run p' some = some q' ∧ q.Cut lost q.pos q' :=
  ((agree_some lost q).outcome_before hr h).found hrun

end Stencil.Regex
