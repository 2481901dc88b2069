import Stencil.Proofs.Regex.Step

/-!
# All matches in one sweep

Looking for the next match, starting over behind its end and looking again is
the same as one sweep over the text: at each place at or behind the end of
the last find, take what begins there. The sweep goes by recursion on the
text, so two of them can be compared place by place, which the search with
its bounded number of tries does not offer. `allMatches_eq_sweep` says that
the two agree for every expression whose matches take a character.
-/

namespace Stencil.Regex

section

variable {α β : Type} {stop : α → Nat} {find : Place → Option α} {p : Place} {past : Nat}

/-- The finds from a place on, of which none begins in front of `past` nor in
front of the end of the one before it. -/
def sweepFrom (stop : α → Nat) (find : Place → Option α) : (past : Nat) →
    (before : Option Char) → (pos : Nat) → (rest : List Char) → List α
  | _, _, _, [] => []
  | past, before, pos, c :: rest =>
      if pos < past then sweepFrom stop find past (some c) (pos + 1) rest
      else match find ⟨before, pos, c :: rest, []⟩ with
        | some a => a :: sweepFrom stop find (stop a) (some c) (pos + 1) rest
        | none => sweepFrom stop find past (some c) (pos + 1) rest

/-- The finds from a place on, from left to right. -/
def sweep (stop : α → Nat) (find : Place → Option α) (past : Nat) (p : Place) : List α :=
  sweepFrom stop find past p.before p.pos p.rest

theorem sweep_nil (hrest : p.rest = []) : sweep stop find past p = [] := by
  rw [sweep, hrest, sweepFrom]

theorem sweep_cons {c : Char} {cs : List Char} (hrest : p.rest = c :: cs)
    (hgroups : p.groups = []) : sweep stop find past p =
      if p.pos < past then sweep stop find past (p.skip 1)
      else match find p with
        | some a => a :: sweep stop find (stop a) (p.skip 1)
        | none => sweep stop find past (p.skip 1) := by
  have hp : (⟨p.before, p.pos, c :: cs, []⟩ : Place) = p := by
    rw [← hrest, ← hgroups]
  simp only [sweep, Place.skip_one hrest]
  rw [hrest, sweepFrom, hp]

/-- In front of `past` a sweep finds nothing. -/
theorem sweep_skip : ∀ {n : Nat} {p : Place}, p.groups = [] → n ≤ p.rest.length →
    p.pos + n ≤ past → sweep stop find past p = sweep stop find past (p.skip n) := by
  intro n
  induction n with
  | zero => intro p _ _ _; rw [Place.skip_zero]
  | succ n ih =>
      intro p hgroups hn hpast
      cases hrest : p.rest with
      | nil => rw [hrest] at hn; simp at hn
      | cons c cs =>
          rw [hrest, List.length_cons] at hn
          rw [sweep_cons hrest hgroups, if_pos (by omega), ih (by exact hgroups)
            (by simp [hrest]; omega) (by rw [Place.skip_pos]; omega), Place.skip_skip,
            Nat.add_comm]

/-- Over characters at which nothing begins a sweep finds nothing. -/
theorem sweep_pass : ∀ {n : Nat} {p : Place}, p.groups = [] → n ≤ p.rest.length →
    (∀ m, m < n → find (p.skip m) = none) →
    sweep stop find past p = sweep stop find past (p.skip n) := by
  intro n
  induction n with
  | zero => intro p _ _ _; rw [Place.skip_zero]
  | succ n ih =>
      intro p hgroups hn hnone
      cases hrest : p.rest with
      | nil => rw [hrest] at hn; simp at hn
      | cons c cs =>
          rw [hrest, List.length_cons] at hn
          have hhere : find p = none := by
            have h := hnone 0 (by omega)
            rwa [Place.skip_zero] at h
          have hnext : sweep stop find past (p.skip 1) =
              sweep stop find past ((p.skip 1).skip n) := by
            refine ih hgroups (by simp [hrest]; omega) fun m hm => ?_
            rw [Place.skip_skip]
            exact hnone (1 + m) (by omega)
          rw [sweep_cons hrest hgroups, hhere]
          simp only [hnext, ite_self, Place.skip_skip, Nat.add_comm]

theorem sweep_take {a : α} {n : Nat} (hgroups : p.groups = []) (hpast : past ≤ p.pos)
    (hfind : find p = some a) (hstop : stop a = p.pos + n) (hpos : 0 < n)
    (hn : n ≤ p.rest.length) :
    sweep stop find past p = a :: sweep stop find (stop a) (p.skip n) := by
  obtain ⟨n, rfl⟩ : ∃ m, n = 1 + m := ⟨n - 1, by omega⟩
  cases hrest : p.rest with
  | nil => rw [hrest] at hn; simp at hn
  | cons c cs =>
      rw [hrest, List.length_cons] at hn
      have hskip : sweep stop find (stop a) (p.skip 1) =
          sweep stop find (stop a) ((p.skip 1).skip n) :=
        sweep_skip hgroups (by simp [hrest]; omega) (by rw [hstop, Place.skip_pos]; omega)
      rw [sweep_cons hrest hgroups, if_neg (by omega), hfind]
      show a :: _ = a :: _
      rw [hskip, Place.skip_skip]

theorem sweep_eq_nil (hgroups : p.groups = []) (hnone : ∀ m, find (p.skip m) = none) :
    sweep stop find past p = [] := by
  rw [sweep_pass hgroups (Nat.le_refl _) fun m _ => hnone m]
  exact sweep_nil (by simp)

/-- Every find of a sweep is found at some place. -/
theorem mem_sweep {a : α} (hgroups : p.groups = []) (hmem : a ∈ sweep stop find past p) :
    ∃ m, find (p.skip m) = some a := by
  induction p using Place.along generalizing past with
  | nil p hrest => rw [sweep_nil hrest] at hmem; cases hmem
  | cons p c cs hrest ih =>
      have hnext : ∀ {past}, a ∈ sweep stop find past (p.skip 1) →
          ∃ m, find (p.skip m) = some a := by
        intro past hmem
        obtain ⟨m, hm⟩ := ih hgroups hmem
        exact ⟨1 + m, by rwa [Place.skip_skip] at hm⟩
      rw [sweep_cons hrest hgroups] at hmem
      split at hmem
      · exact hnext hmem
      · split at hmem
        · next b hfind =>
            rcases List.mem_cons.1 hmem with rfl | hmem
            · exact ⟨0, by rwa [Place.skip_zero]⟩
            · exact hnext hmem
        · exact hnext hmem

/-- What begins at a place is found there, unless the place lies in front of
`past` or in an earlier find. -/
theorem sweep_covers {a : α} {m : Nat} (past : Nat) (hgroups : p.groups = [])
    (hm : m < p.rest.length) (hfind : find (p.skip m) = some a) :
    a ∈ sweep stop find past p ∨ p.pos + m < past ∨
      ∃ b ∈ sweep stop find past p, ∃ i, i < m ∧ find (p.skip i) = some b ∧
        p.pos + m < stop b := by
  induction p using Place.along generalizing past m with
  | nil p hrest => rw [hrest] at hm; simp at hm
  | cons p c cs hrest ih =>
      rw [sweep_cons hrest hgroups]
      cases m with
      | zero =>
          rw [Place.skip_zero] at hfind
          by_cases hpast : p.pos < past
          · exact .inr (.inl hpast)
          · left
            rw [if_neg hpast, hfind]
            exact List.mem_cons_self
      | succ m =>
          rw [Nat.add_comm, ← Place.skip_skip] at hfind
          have hm' : m < (p.skip 1).rest.length := by
            rw [Place.skip_rest, List.length_drop]
            omega
          have hnext := fun past => ih past hgroups hm' hfind
          simp only [Place.skip_skip, Place.skip_pos] at hnext
          split
          · rcases hnext past with hin | hlt | ⟨b, hb, i, hi, hfound, hlt⟩
            · exact .inl hin
            · exact .inr (.inl (by omega))
            · exact .inr (.inr ⟨b, hb, 1 + i, by omega, hfound, by omega⟩)
          · split
            · next b hfound =>
                rcases hnext (stop b) with hin | hlt | ⟨b', hb', i, hi, hfound', hlt⟩
                · exact .inl (List.mem_cons_of_mem _ hin)
                · exact .inr (.inr ⟨b, List.mem_cons_self, 0, by omega,
                    by rwa [Place.skip_zero], by omega⟩)
                · exact .inr (.inr ⟨b', List.mem_cons_of_mem _ hb', 1 + i, by omega, hfound',
                    by omega⟩)
            · rcases hnext past with hin | hlt | ⟨b, hb, i, hi, hfound, hlt⟩
              · exact .inl hin
              · exact .inr (.inl (by omega))
              · exact .inr (.inr ⟨b, hb, 1 + i, by omega, hfound, by omega⟩)

/-- Finds that begin where they are found stand one behind the other, and all
of them behind `past`. -/
theorem sweep_apart {start : α → Nat}
    (hspan : ∀ q a, find q = some a → start a = q.pos ∧ q.pos ≤ stop a)
    (past : Nat) (hgroups : p.groups = []) : (∀ a ∈ sweep stop find past p, past ≤ start a) ∧
      (sweep stop find past p).Pairwise fun a b => stop a ≤ start b := by
  induction p using Place.along generalizing past with
  | nil p hrest => rw [sweep_nil hrest]; simp
  | cons p c cs hrest ih =>
      have hnext := fun past => ih past hgroups
      rw [sweep_cons hrest hgroups]
      split
      · exact hnext past
      · next hpast =>
          split
          · next a hfind =>
              obtain ⟨hbehind, hapart⟩ := hnext (stop a)
              obtain ⟨hstart, hstop⟩ := hspan p a hfind
              refine ⟨List.forall_mem_cons.2 ⟨by omega, fun b hb => ?_⟩,
                List.pairwise_cons.2 ⟨hbehind, hapart⟩⟩
              have hb := hbehind b hb
              omega
          · exact hnext past

theorem sweep_map (g : α → β) (stop' : β → Nat) (hstop : ∀ a, stop' (g a) = stop a)
    (hgroups : p.groups = []) :
    (sweep stop find past p).map g = sweep stop' (fun q => (find q).map g) past p := by
  induction p using Place.along generalizing past with
  | nil p hrest => rw [sweep_nil hrest, sweep_nil hrest, List.map_nil]
  | cons p c cs hrest ih =>
      have hnext : ∀ past, (sweep stop find past (p.skip 1)).map g =
          sweep stop' (fun q => (find q).map g) past (p.skip 1) := fun _ => ih hgroups
      rw [sweep_cons hrest hgroups, sweep_cons hrest hgroups]
      split
      · exact hnext past
      · cases find p with
        | none => exact hnext past
        | some a => simp only [Option.map_some, List.map_cons, hnext, hstop]

end

/-! ## Matches -/

/-- Every match of the expression takes a character. -/
def Consumes (r : Regex) : Prop :=
  ∀ p q : Place, r.matchAt? true p = some q → p.pos < q.pos

/-- An expression that begins with a character takes that character. -/
theorem consumes_one (cl : CharClass) (rs : List Regex) : (all (.one cl :: rs)).Consumes := by
  intro p q h
  rw [matchAt?_true, run_all_cons] at h
  cases hrest : p.rest with
  | nil => rw [run_one_nil cl hrest] at h; cases h
  | cons c cs =>
      rw [run_one_cons cl hrest] at h
      split at h
      · obtain ⟨m, hreach, hm⟩ := run_reaches h
        cases hm
        have hle := hreach.bounds.1
        rw [Place.skip_pos] at hle
        omega
      · cases h

/-- The match that begins at a place. -/
def matchHere? (r : Regex) (p : Place) : Option Match :=
  (r.matchAt? true p).map (Match.between p)

/-- A match at a place is the text from there to where the expression leads. -/
theorem exists_of_matchHere? {r : Regex} {p : Place} {m : Match} (h : r.matchHere? p = some m) :
    ∃ n groups, n ≤ p.rest.length ∧ r.run p some = some (p.marked n groups) ∧
      m = ⟨p.pos, p.pos + n, p.rest.take n, groups⟩ := by
  obtain ⟨q, hq, rfl⟩ := Option.map_eq_some_iff.1 h
  obtain ⟨n, hn, hend⟩ : ∃ n, n ≤ p.rest.length ∧ q = p.marked n q.groups := matchAt?_reaches hq
  have hpos : q.pos = p.pos + n := by rw [hend, Place.marked_pos]
  rw [matchAt?_true] at hq
  refine ⟨n, q.groups, hn, by rw [← hend, hq], ?_⟩
  rw [Match.between, hpos, Nat.add_sub_cancel_left]

theorem findFrom?_consumes {r : Regex} (hr : r.Consumes) {a b : Place} : ∀ {rest : List Char}
    {before : Option Char} {pos : Nat}, r.findFrom? true before pos rest = some (a, b) →
    a.pos < b.pos := by
  intro rest
  induction rest with
  | nil =>
      intro before pos h
      rw [findFrom?] at h
      obtain ⟨q, hq, hab⟩ := Option.map_eq_some_iff.1 h
      cases hab
      exact hr _ _ hq
  | cons c rest ih =>
      intro before pos h
      rw [findFrom?] at h
      split at h
      · next q hq => cases h; exact hr _ _ hq
      · exact ih h

/-- The first match of a search is the first find of the sweep, and the sweep
goes on behind it. -/
theorem sweep_findFrom? {r : Regex} (hr : r.Consumes) : ∀ (rest : List Char)
    {before : Option Char} {pos past : Nat}, past ≤ pos →
    sweep Match.stop r.matchHere? past ⟨before, pos, rest, []⟩ =
      match r.findFrom? true before pos rest with
      | none => []
      | some (a, b) =>
          Match.between a b :: sweep Match.stop r.matchHere? b.pos { b with groups := [] } := by
  intro rest
  induction rest with
  | nil =>
      intro before pos past _
      have hnone : r.matchAt? true ⟨before, pos, [], []⟩ = none := by
        cases h : r.matchAt? true ⟨before, pos, [], []⟩ with
        | none => rfl
        | some q =>
            have hlt := hr _ _ h
            have hbounds := (matchAt?_reaches h).bounds
            simp only [List.length_nil] at hlt hbounds
            omega
      rw [sweep_nil rfl, findFrom?, hnone]
      rfl
  | cons c rest ih =>
      intro before pos past hpast
      rw [sweep_cons rfl rfl, if_neg (Nat.not_lt.2 hpast), findFrom?]
      cases h : r.matchAt? true ⟨before, pos, c :: rest, []⟩ with
      | none =>
          simp only [matchHere?, h, Option.map_none]
          exact ih (Nat.le_succ_of_le hpast)
      | some q =>
          obtain ⟨n, hn, hq⟩ := matchAt?_reaches h
          have hpos : q.pos = pos + n := by rw [hq]; rfl
          have hlt : pos < q.pos := hr _ _ h
          obtain ⟨n, rfl⟩ : ∃ m, n = m + 1 := ⟨n - 1, by omega⟩
          have hbare : ({ q with groups := [] } : Place) =
              (Place.skip ⟨before, pos, c :: rest, []⟩ 1).skip n := by
            rw [Place.skip_skip, hq, Nat.add_comm]
            rfl
          simp only [matchHere?, h, Option.map_some, hbare]
          congr 1
          refine sweep_skip rfl ?_ ?_
          · simpa using hn
          · show pos + 1 + n ≤ q.pos
            omega

theorem matchesFrom_eq_sweep {r : Regex} (hr : r.Consumes) : ∀ {tries : Nat} {p : Place},
    p.rest.length < tries → p.groups = [] →
    r.matchesFrom tries true p = sweep Match.stop r.matchHere? p.pos p := by
  intro tries
  induction tries with
  | zero => intro p h _; omega
  | succ tries ih =>
      intro p h hgroups
      have hp : (⟨p.before, p.pos, p.rest, []⟩ : Place) = p := by rw [← hgroups]
      rw [matchesFrom, ← hp, sweep_findFrom? hr p.rest (Nat.le_refl p.pos), hp]
      cases hfind : r.findFrom? true p.before p.pos p.rest with
      | none => rfl
      | some found =>
          obtain ⟨a, b⟩ := found
          obtain ⟨hle, hlen, hreach⟩ := findFrom?_reaches hfind
          obtain ⟨hab, hend⟩ := hreach.bounds
          have hlt : a.pos < b.pos := findFrom?_consumes hr hfind
          have hne : (a.pos != b.pos) = true := by simp; omega
          simp only [hne]
          congr 1
          exact ih (by show b.rest.length < tries; omega) rfl

/-- The matches of an expression in a text are the finds of one sweep. -/
theorem allMatches_eq_sweep {r : Regex} (hr : r.Consumes) (cs : List Char) :
    r.allMatches cs = sweep Match.stop r.matchHere? 0 (Place.ofText cs) :=
  matchesFrom_eq_sweep hr (by simp only [Place.ofText]; omega) rfl

/-- A match from the first character of a text to the last is the only one. -/
theorem allMatches_whole {r : Regex} (hr : r.Consumes) {cs : List Char} {m : Match}
    (h : r.matchHere? (Place.ofText cs) = some m) (hstop : m.stop = cs.length) :
    r.allMatches cs = [m] := by
  have hpos : 0 < cs.length := by
    obtain ⟨q, hq, rfl⟩ := Option.map_eq_some_iff.1 h
    rw [← hstop]
    exact hr _ _ hq
  have hend : ((Place.ofText cs).skip cs.length).rest = [] := List.drop_length
  rw [allMatches_eq_sweep hr, sweep_take rfl (Nat.le_refl 0) h (hstop.trans (Nat.zero_add _).symm)
    hpos (Nat.le_refl _), sweep_nil hend]

end Stencil.Regex
