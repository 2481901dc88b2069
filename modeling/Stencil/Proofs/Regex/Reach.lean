import Stencil.Regex.Matcher

/-!
# A match only goes forward

Whatever an expression is, the place where its match ends lies at or behind
the place where it begins, in the same text. Which places can be reached is
said without the matcher: `Takes r p q` means that some way through `r` leads
from `p` to `q`, in whatever order the ways are tried. The matcher passes the
rest of the expression along as a function, so the statement about it is that
an answer means that some place was reached and that the rest succeeded from
there. The inductions are on the expression, each with an inner one on the
rounds of a repetition. What the matcher does with each expression is said
once, by an equation (`run_one` to `rounds_more`); proofs rewrite with those
and do not unfold it.

What the other modules use is the bound on `allMatches`: every match lies
inside the text. It holds of every expression, so it holds of whatever tag
syntax an engine is given.
-/

namespace Stencil.Regex

/-- The place `n` characters further on, with the same groups. -/
def Place.skip (p : Place) (n : Nat) : Place :=
  ⟨(p.rest.take n).getLast?.or p.before, p.pos + n, p.rest.drop n, p.groups⟩

/-- The second place lies at or behind the first in the same text. -/
def Place.Reaches (p q : Place) : Prop :=
  ∃ n, n ≤ p.rest.length ∧ q = { p.skip n with groups := q.groups }

@[simp] theorem Place.skip_pos (p : Place) (n : Nat) : (p.skip n).pos = p.pos + n := rfl

@[simp] theorem Place.skip_rest (p : Place) (n : Nat) : (p.skip n).rest = p.rest.drop n := rfl

@[simp] theorem Place.skip_zero (p : Place) : p.skip 0 = p := by
  simp [Place.skip]

theorem Place.skip_skip (p : Place) (n m : Nat) : (p.skip n).skip m = p.skip (n + m) := by
  have hlast : ((p.rest.drop n).take m).getLast?.or ((p.rest.take n).getLast?.or p.before) =
      (p.rest.take (n + m)).getLast?.or p.before := by
    rw [List.take_add, List.getLast?_append, Option.or_assoc]
  simp only [Place.skip, hlast, List.drop_drop, Nat.add_assoc]

/-- Induction along a text: what holds at its end, and at a place if it holds
one character further on, holds everywhere. -/
theorem Place.along {motive : Place → Prop} (nil : ∀ p : Place, p.rest = [] → motive p)
    (cons : ∀ (p : Place) (c : Char) (cs : List Char), p.rest = c :: cs → motive (p.skip 1) →
      motive p) (p : Place) : motive p := by
  generalize hrest : p.rest = cs
  induction cs generalizing p with
  | nil => exact nil p hrest
  | cons c cs ih =>
      refine cons p c cs hrest (ih (p.skip 1) ?_)
      rw [Place.skip_rest, hrest]
      rfl

theorem Place.skip_one {p : Place} {c : Char} {cs : List Char} (h : p.rest = c :: cs) :
    p.skip 1 = { p with before := some c, pos := p.pos + 1, rest := cs } := by
  simp [Place.skip, h]

theorem Place.step?_cons {p : Place} {c : Char} {cs : List Char} (cl : CharClass)
    (h : p.rest = c :: cs) : p.step? cl = if cl.holds c then some (p.skip 1) else none := by
  rw [Place.skip_one h]
  simp only [Place.step?, h]

theorem Place.step?_nil {p : Place} (cl : CharClass) (h : p.rest = []) : p.step? cl = none := by
  simp only [Place.step?, h]

theorem Place.Reaches.refl (p : Place) : p.Reaches p :=
  ⟨0, Nat.zero_le _, by simp⟩

theorem Place.Reaches.trans {p q r : Place} (hpq : p.Reaches q) (hqr : q.Reaches r) :
    p.Reaches r := by
  obtain ⟨n, hn, hq⟩ := hpq
  obtain ⟨m, hm, hr⟩ := hqr
  have hrest : q.rest = p.rest.drop n := by rw [hq]; rfl
  have hskip : { q.skip m with groups := r.groups } =
      { (p.skip n).skip m with groups := r.groups } := by
    rw [hq]; rfl
  refine ⟨n + m, ?_, ?_⟩
  · rw [hrest, List.length_drop] at hm
    omega
  · rw [hr, hskip, Place.skip_skip]

theorem Place.Reaches.keep {p q : Place} (name : String) (h : p.Reaches q) :
    p.Reaches (p.keep name q) := by
  obtain ⟨n, hn, hq⟩ := h
  refine ⟨n, hn, ?_⟩
  rw [hq]
  rfl

theorem Place.Reaches.step? {p q : Place} {cl : CharClass} (h : p.step? cl = some q) :
    p.Reaches q := by
  cases hrest : p.rest with
  | nil => rw [Place.step?_nil cl hrest] at h; cases h
  | cons c cs =>
      rw [Place.step?_cons cl hrest] at h
      split at h
      · cases h
        exact ⟨1, by simp [hrest], rfl⟩
      · cases h

/-- Where a match ends in terms of where it begins. -/
theorem Place.Reaches.bounds {p q : Place} (h : p.Reaches q) :
    p.pos ≤ q.pos ∧ q.pos + q.rest.length = p.pos + p.rest.length := by
  obtain ⟨n, hn, hq⟩ := h
  rw [hq]
  simp only [Place.skip_pos, Place.skip_rest, List.length_drop]
  omega

/-! ## What an expression can take -/

/-- Rounds of `step`, at least `least` and at most `most` of them. A round that
takes nothing is the last one. -/
def TakesRounds (step : Place → Place → Prop) : (most least : Nat) → Place → Place → Prop
  | 0, _, p, q => q = p
  | most + 1, least + 1, p, q => ∃ m, step p m ∧ TakesRounds step most least m q
  | most + 1, 0, p, q =>
      q = p ∨ ∃ m, step p m ∧ if m.pos = p.pos then q = m else TakesRounds step most 0 m q

/-- Some way through the expression leads from the first place to the second. -/
def Takes : Regex → Place → Place → Prop
  | .empty, p, q => q = p
  | .one c, p, q => p.step? c = some q
  | .seq a b, p, q => ∃ m, Takes a p m ∧ Takes b m q
  | .alt a b, p, q => Takes a p q ∨ Takes b p q
  | .repeat r least most _, p, q =>
      TakesRounds (Takes r) (most.getD (least + p.rest.length)) least p q
  | .group name r, p, q => ∃ m, Takes r p m ∧ q = p.keep name m
  | .ahead refused r, p, q => q = p ∧ (run r p some).isSome ≠ refused
  | .wordEdge refused, p, q => q = p ∧ p.atWordEdge ≠ refused
  | .start, p, q => q = p ∧ p.pos = 0
  | .stop, p, q => q = p ∧ p.rest = []
  | .lastLine, p, q => q = p ∧ (p.rest = [] ∨ p.rest = ['\n'])

theorem TakesRounds.reaches {way : Place → Place → Prop} (hway : ∀ p q, way p q → p.Reaches q) :
    ∀ {most least : Nat} {p q : Place}, TakesRounds way most least p q → p.Reaches q := by
  intro most
  induction most with
  | zero => rintro least p q rfl; exact .refl _
  | succ most ih =>
      intro least p q h
      cases least with
      | succ least =>
          obtain ⟨m, hm, hq⟩ := h
          exact (hway _ _ hm).trans (ih hq)
      | zero =>
          rcases h with rfl | ⟨m, hm, hq⟩
          · exact .refl _
          · split at hq
            · rw [hq]; exact hway _ _ hm
            · exact (hway _ _ hm).trans (ih hq)

/-- What is taken lies at or behind the place where it begins. -/
theorem Takes.reaches {r : Regex} : ∀ {p q : Place}, r.Takes p q → p.Reaches q := by
  induction r with
  | empty => rintro p q rfl; exact .refl _
  | one c => intro p q h; exact .step? h
  | seq a b iha ihb => rintro p q ⟨m, ha, hb⟩; exact (iha ha).trans (ihb hb)
  | alt a b iha ihb => intro p q h; exact h.elim iha ihb
  | «repeat» body least most greedy ih =>
      intro p q h
      exact TakesRounds.reaches (fun _ _ => ih) h
  | group name body ih => rintro p q ⟨m, h, rfl⟩; exact (ih h).keep name
  | ahead refused body _ => rintro p q ⟨rfl, _⟩; exact .refl _
  | wordEdge refused => rintro p q ⟨rfl, _⟩; exact .refl _
  | start | stop | lastLine => rintro p q ⟨rfl, _⟩; exact .refl _

/-! ## The matcher, one expression at a time -/

section

variable {p : Place} {k : Continue}

theorem run_one (cl : CharClass) : run (.one cl) p k = (p.step? cl).bind k := rfl

theorem run_seq (a b : Regex) : run (.seq a b) p k = run a p fun q => run b q k := rfl

theorem run_alt (a b : Regex) : run (.alt a b) p k = (run a p k).or (run b p k) := by
  rw [run]
  cases run a p k <;> rfl

theorem run_group (name : String) (r : Regex) :
    run (.group name r) p k = run r p fun q => k (p.keep name q) := rfl

theorem run_ahead (refused : Bool) (r : Regex) : run (.ahead refused r) p k =
    if (run r p some).isSome != refused then k p else none := rfl

theorem run_wordEdge (refused : Bool) : run (.wordEdge refused) p k =
    if p.atWordEdge != refused then k p else none := rfl

theorem run_start : run .start p k = if p.pos = 0 then k p else none := rfl

theorem run_stop : run .stop p k = if p.rest = [] then k p else none := rfl

theorem run_lastLine :
    run .lastLine p k = if p.rest = [] ∨ p.rest = ['\n'] then k p else none := rfl

/-- A repetition as rounds: without a bound, as many rounds as there are characters. -/
theorem run_repeat {body : Regex} {least : Nat} {most : Option Nat} {greedy : Bool} (p : Place)
    (k : Continue) : run (.repeat body least most greedy) p k =
      rounds (run body) greedy k (most.getD (least + p.rest.length)) least p := by
  cases most <;> rfl

variable {step : Place → Continue → Option Place} {greedy : Bool}

theorem rounds_zero (least : Nat) : rounds step greedy k 0 least p = k p := rfl

theorem rounds_least (most least : Nat) : rounds step greedy k (most + 1) (least + 1) p =
    step p fun q => rounds step greedy k most least q := rfl

/-- Behind the rounds that there must be: one more or none, and greed says which is tried first. -/
theorem rounds_more (most : Nat) : rounds step greedy k (most + 1) 0 p =
    if greedy then
      (step p fun q => if q.pos = p.pos then k q else rounds step greedy k most 0 q).or (k p)
    else
      (k p).or (step p fun q => if q.pos = p.pos then k q else rounds step greedy k most 0 q) := by
  rw [rounds]
  cases greedy
  · cases k p <;> rfl
  · cases step p _ <;> rfl

end

/-! ## The matcher finds what the expression can take -/

theorem rounds_takes {step : Place → Continue → Option Place} {way : Place → Place → Prop}
    {greedy : Bool} {k : Continue} {q : Place}
    (hstep : ∀ p k, step p k = some q → ∃ m, way p m ∧ k m = some q) :
    ∀ {most least : Nat} {p : Place}, rounds step greedy k most least p = some q →
      ∃ m, TakesRounds way most least p m ∧ k m = some q := by
  intro most
  induction most with
  | zero =>
      intro least p h
      exact ⟨p, rfl, h⟩
  | succ most ih =>
      intro least p h
      cases least with
      | succ least =>
          rw [rounds_least] at h
          obtain ⟨r, hr, hround⟩ := hstep _ _ h
          obtain ⟨m, hm, hk⟩ := ih hround
          exact ⟨m, ⟨r, hr, hm⟩, hk⟩
      | zero =>
          have htaken : step p (fun r => if r.pos = p.pos then k r
              else rounds step greedy k most 0 r) = some q →
              ∃ m, TakesRounds way (most + 1) 0 p m ∧ k m = some q := by
            intro hround
            obtain ⟨r, hr, hround⟩ := hstep _ _ hround
            split at hround
            · next hsame => exact ⟨r, .inr ⟨r, hr, by rw [if_pos hsame]⟩, hround⟩
            · next hmoved =>
                obtain ⟨m, hm, hk⟩ := ih hround
                exact ⟨m, .inr ⟨r, hr, by rwa [if_neg hmoved]⟩, hk⟩
          have hleft : k p = some q → ∃ m, TakesRounds way (most + 1) 0 p m ∧ k m = some q :=
            fun hk => ⟨p, .inl rfl, hk⟩
          rw [rounds_more] at h
          split at h
          · exact (Option.or_eq_some_iff.1 h).elim htaken fun hk => hleft hk.2
          · exact (Option.or_eq_some_iff.1 h).elim hleft fun hround => htaken hround.2

/-- The matcher answers with what the rest gives at a place that the
expression can reach. -/
theorem run_takes {r : Regex} : ∀ {p q : Place} {k : Continue}, r.run p k = some q →
    ∃ m, r.Takes p m ∧ k m = some q := by
  induction r with
  | empty => intro p q k h; exact ⟨p, rfl, h⟩
  | one c =>
      intro p q k h
      rw [run_one] at h
      exact Option.bind_eq_some_iff.1 h
  | seq a b iha ihb =>
      intro p q k h
      rw [run_seq] at h
      obtain ⟨m, hm, hb⟩ := iha h
      obtain ⟨m', hm', hk⟩ := ihb hb
      exact ⟨m', ⟨m, hm, hm'⟩, hk⟩
  | alt a b iha ihb =>
      intro p q k h
      rw [run_alt] at h
      rcases Option.or_eq_some_iff.1 h with ha | ⟨-, hb⟩
      · obtain ⟨m, hm, hk⟩ := iha ha
        exact ⟨m, .inl hm, hk⟩
      · obtain ⟨m, hm, hk⟩ := ihb hb
        exact ⟨m, .inr hm, hk⟩
  | «repeat» body least most greedy ih =>
      intro p q k h
      have hbody : ∀ p k, run body p k = some q → ∃ m, body.Takes p m ∧ k m = some q :=
        fun _ _ => ih
      rw [run_repeat] at h
      exact rounds_takes hbody h
  | group name body ih =>
      intro p q k h
      rw [run_group] at h
      obtain ⟨m, hm, hk⟩ := ih h
      exact ⟨p.keep name m, ⟨m, hm, rfl⟩, hk⟩
  | ahead refused body _ =>
      intro p q k h
      rw [run_ahead] at h
      split at h
      · next hahead => exact ⟨p, ⟨rfl, bne_iff_ne.1 hahead⟩, h⟩
      · cases h
  | wordEdge refused =>
      intro p q k h
      rw [run_wordEdge] at h
      split at h
      · next hedge => exact ⟨p, ⟨rfl, bne_iff_ne.1 hedge⟩, h⟩
      · cases h
  | start | stop | lastLine =>
      intro p q k h
      simp only [run_start, run_stop, run_lastLine] at h
      split at h
      · next hplace => exact ⟨p, ⟨rfl, hplace⟩, h⟩
      · cases h

/-- A match goes forward: the rest of the expression succeeded from a place
at or behind the one where the match began. -/
theorem run_reaches {r : Regex} {p q : Place} {k : Continue} (h : r.run p k = some q) :
    ∃ m, p.Reaches m ∧ k m = some q := by
  obtain ⟨m, hm, hk⟩ := run_takes h
  exact ⟨m, hm.reaches, hk⟩

/-! ## Matches in a text -/

theorem matchAt?_reaches {r : Regex} {emptyAllowed : Bool} {p q : Place}
    (h : r.matchAt? emptyAllowed p = some q) : p.Reaches q := by
  obtain ⟨m, hm, hk⟩ := run_reaches h
  split at hk
  · cases hk
  · cases hk
    exact hm

/-- A match that is found begins in the text looked through, and goes forward. -/
theorem findFrom?_reaches {r : Regex} {a b : Place} : ∀ {rest : List Char} {emptyAllowed : Bool}
    {before : Option Char} {pos : Nat},
    r.findFrom? emptyAllowed before pos rest = some (a, b) →
      pos ≤ a.pos ∧ a.pos + a.rest.length = pos + rest.length ∧ a.Reaches b := by
  intro rest
  induction rest with
  | nil =>
      intro emptyAllowed before pos h
      rw [findFrom?] at h
      obtain ⟨q, hq, hab⟩ := Option.map_eq_some_iff.1 h
      cases hab
      exact ⟨Nat.le_refl _, rfl, matchAt?_reaches hq⟩
  | cons c rest ih =>
      intro emptyAllowed before pos h
      rw [findFrom?] at h
      split at h
      · next q hq =>
          cases h
          exact ⟨Nat.le_refl _, rfl, matchAt?_reaches hq⟩
      · obtain ⟨hle, hlen, hreach⟩ := ih h
        refine ⟨by omega, ?_, hreach⟩
        rw [hlen, List.length_cons]
        omega

theorem mem_matchesFrom {r : Regex} {m : Match} : ∀ {tries : Nat} {emptyAllowed : Bool}
    {p : Place}, m ∈ r.matchesFrom tries emptyAllowed p →
      m.start ≤ m.stop ∧ m.stop ≤ p.pos + p.rest.length := by
  intro tries
  induction tries with
  | zero => intro emptyAllowed p h; cases h
  | succ tries ih =>
      intro emptyAllowed p h
      rw [matchesFrom] at h
      split at h
      · cases h
      · next a b hfind =>
          obtain ⟨_, hlen, hreach⟩ := findFrom?_reaches hfind
          obtain ⟨hab, hend⟩ := hreach.bounds
          cases h with
          | head =>
              refine ⟨hab, ?_⟩
              show b.pos ≤ _
              omega
          | tail _ hmem =>
              have hm := ih hmem
              simp only [] at hm
              omega

/-- Every match lies inside the text. -/
theorem mem_allMatches {r : Regex} {cs : List Char} {m : Match} (h : m ∈ r.allMatches cs) :
    m.start ≤ m.stop ∧ m.stop ≤ cs.length := by
  have hm := mem_matchesFrom h
  simpa [Place.ofText] using hm

end Stencil.Regex
