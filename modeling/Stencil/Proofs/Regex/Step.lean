import Stencil.Proofs.Regex.Reach

/-!
# Matching, one step at a time

The equations by which a match is computed on a text that is known in part.
Each says what an expression does at a place in terms of the place one
character further on, so that a proof about a pattern can follow the text
instead of the matcher. Repetitions of one character are the only ones whose
bound needs an argument: more rounds than there are characters left change
nothing.
-/

namespace Stencil.Regex

variable {p : Place} {k : Continue}

@[simp] theorem run_all_nil : run (.all []) p k = k p := rfl

@[simp] theorem run_all_cons (r : Regex) (rs : List Regex) :
    run (.all (r :: rs)) p k = run r p fun q => run (.all rs) q k := rfl

theorem run_one_nil (cl : CharClass) (h : p.rest = []) : run (.one cl) p k = none := by
  rw [run_one, Place.step?_nil cl h, Option.bind_none]

theorem run_one_cons (cl : CharClass) {c : Char} {cs : List Char} (h : p.rest = c :: cs) :
    run (.one cl) p k = if cl.holds c then k (p.skip 1) else none := by
  rw [run_one, Place.step?_cons cl h]
  split <;> rfl

theorem run_optional (r : Regex) : run (.optional r) p k = (run r p k).or (k p) := by
  rw [Regex.optional, run_repeat]
  show rounds (run r) true k 1 0 p = _
  rw [rounds_more, if_pos rfl]
  simp only [rounds_zero, ite_self]

theorem run_optional_none {r : Regex} (h : run r p k = none) : run (.optional r) p k = k p := by
  rw [run_optional, h, Option.none_or]

theorem run_optional_some {r : Regex} {q : Place} (h : run r p k = some q) :
    run (.optional r) p k = some q := by
  rw [run_optional, h, Option.some_or]

/-! ## Repeating one character -/

/-- Rounds of one character behind the first of them: more rounds than there
are characters change nothing. -/
theorem rounds_one_enough (cl : CharClass) (greedy : Bool) : ∀ {most : Nat} {p : Place},
    p.rest.length ≤ most →
    rounds (run (.one cl)) greedy k most 0 p = rounds (run (.one cl)) greedy k p.rest.length 0 p := by
  intro most
  induction most with
  | zero =>
      intro p h
      rw [Nat.le_zero.1 h]
  | succ most ih =>
      intro p h
      cases hrest : p.rest with
      | nil =>
          have hnone : ∀ k', run (.one cl) p k' = none := fun _ => run_one_nil cl hrest
          rw [List.length_nil, rounds_more, rounds_zero]
          simp only [hnone, Option.none_or, Option.or_none, ite_self]
      | cons c cs =>
          have hskip : (p.skip 1).rest = cs := by simp [hrest]
          have hih := ih (p := p.skip 1) (by rw [hskip]; rw [hrest] at h; simpa using h)
          rw [hskip] at hih
          rw [List.length_cons, rounds_more, rounds_more]
          simp only [run_one_cons cl hrest, Place.skip_pos, Nat.add_eq_left, Nat.one_ne_zero,
            if_false, hih]

/-- A repetition of one character is one round and the repetition again, or
nothing; which of the two is tried first is what greed means. -/
theorem run_repeat_one (cl : CharClass) (greedy : Bool) :
    run (.repeat (.one cl) 0 none greedy) p k =
      if greedy then
        ((p.step? cl).bind fun q => run (.repeat (.one cl) 0 none greedy) q k).or (k p)
      else (k p).or ((p.step? cl).bind fun q => run (.repeat (.one cl) 0 none greedy) q k) := by
  simp only [run_repeat, Option.getD_none, Nat.zero_add]
  cases hrest : p.rest with
  | nil =>
      rw [Place.step?_nil cl hrest, List.length_nil, rounds_zero]
      cases greedy <;> simp
  | cons c cs =>
      have hskip : (p.skip 1).rest = cs := by simp [hrest]
      rw [Place.step?_cons cl hrest, List.length_cons, rounds_more]
      simp only [run_one_cons cl hrest, Place.skip_pos, Nat.add_eq_left, Nat.one_ne_zero, if_false]
      by_cases hc : cl.holds c = true
      · simp only [hc, if_true, Option.bind_some, hskip]
      · simp only [hc, Bool.false_eq_true, if_false, Option.bind_none]

theorem run_many (cl : CharClass) : run (.many (.one cl)) p k =
    ((p.step? cl).bind fun q => run (.many (.one cl)) q k).or (k p) := by
  have h := run_repeat_one (p := p) (k := k) cl true
  rwa [if_pos rfl] at h

theorem run_manyLazy (cl : CharClass) : run (.manyLazy (.one cl)) p k =
    (k p).or ((p.step? cl).bind fun q => run (.manyLazy (.one cl)) q k) := by
  have h := run_repeat_one (p := p) (k := k) cl false
  rwa [if_neg Bool.false_ne_true] at h

/-- More rounds of one character than can be needed change nothing. -/
theorem rounds_one_bound (cl : CharClass) (greedy : Bool) : ∀ {least most : Nat} {p : Place},
    least + p.rest.length ≤ most → rounds (run (.one cl)) greedy k most least p =
      rounds (run (.one cl)) greedy k (least + p.rest.length) least p := by
  intro least
  induction least with
  | zero =>
      intro most p h
      rw [Nat.zero_add] at h ⊢
      exact rounds_one_enough cl greedy h
  | succ least ih =>
      intro most p h
      obtain ⟨most, rfl⟩ : ∃ m, most = m + 1 := ⟨most - 1, by omega⟩
      rw [Nat.add_right_comm, rounds_least, rounds_least]
      cases hrest : p.rest with
      | nil => rw [run_one_nil cl hrest, run_one_nil cl hrest]
      | cons c cs =>
          rw [hrest, List.length_cons] at h
          have hskip : (p.skip 1).rest.length = cs.length := by simp [hrest]
          -- Behind one character both bounds are larger than needed, so both are the same.
          have hnext : ∀ m, least + cs.length ≤ m →
              rounds (run (.one cl)) greedy k m least (p.skip 1) =
                rounds (run (.one cl)) greedy k (least + cs.length) least (p.skip 1) := by
            intro m hm
            rw [← hskip] at hm ⊢
            exact ih hm
          rw [run_one_cons cl hrest, run_one_cons cl hrest, List.length_cons,
            hnext most (by omega), hnext (least + (cs.length + 1)) (by omega)]

theorem run_repeat_one_succ (cl : CharClass) (greedy : Bool) (least : Nat) :
    run (.repeat (.one cl) (least + 1) none greedy) p k =
      (p.step? cl).bind fun q => run (.repeat (.one cl) least none greedy) q k := by
  simp only [run_repeat, Option.getD_none]
  rw [Nat.add_right_comm, rounds_least]
  cases hrest : p.rest with
  | nil => rw [run_one_nil cl hrest, Place.step?_nil cl hrest, Option.bind_none]
  | cons c cs =>
      have hskip : (p.skip 1).rest.length = cs.length := by simp [hrest]
      rw [run_one_cons cl hrest, Place.step?_cons cl hrest, List.length_cons]
      split
      · rw [rounds_one_bound cl greedy (by rw [hskip]; omega), Option.bind_some]
      · rfl

theorem run_some1 (cl : CharClass) : run (.some1 (.one cl)) p k =
    (p.step? cl).bind fun q => run (.many (.one cl)) q k :=
  run_repeat_one_succ cl true 0

theorem run_some1Lazy (cl : CharClass) : run (.some1Lazy (.one cl)) p k =
    (p.step? cl).bind fun q => run (.manyLazy (.one cl)) q k :=
  run_repeat_one_succ cl false 0

/-! ## Texts of one class -/

/-- As many as possible are as many as possible behind characters of the class,
if there is a way on from there. -/
theorem run_many_through {cl : CharClass} {q : Place} : ∀ {cs tail : List Char} {p : Place},
    p.rest = cs ++ tail → (∀ c ∈ cs, cl.holds c = true) →
    run (.many (.one cl)) (p.skip cs.length) k = some q → run (.many (.one cl)) p k = some q := by
  intro cs
  induction cs with
  | nil =>
      intro tail p _ _ hend
      rwa [List.length_nil, Place.skip_zero] at hend
  | cons c cs ih =>
      intro tail p hrest hcs hend
      have hrest' : (p.skip 1).rest = cs ++ tail := by rw [Place.skip_rest, hrest]; rfl
      have hnext : run (.many (.one cl)) (p.skip 1) k = some q := by
        refine ih hrest' (fun d hd => hcs d (List.mem_cons_of_mem c hd)) ?_
        rwa [Place.skip_skip, Nat.add_comm]
      rw [run_many, Place.step?_cons _ hrest, if_pos (hcs c List.mem_cons_self),
        Option.bind_some, hnext, Option.some_or]

/-- Over characters of a class that end there, as many as possible are all of
them, if the rest succeeds behind them. -/
theorem run_many_all {cl : CharClass} {q : Place} {cs tail : List Char}
    (hrest : p.rest = cs ++ tail) (hcs : ∀ c ∈ cs, cl.holds c = true)
    (htail : ∀ c ∈ tail.head?, cl.holds c = false) (hk : k (p.skip cs.length) = some q) :
    run (.many (.one cl)) p k = some q := by
  have hbehind : (p.skip cs.length).rest = tail := by rw [Place.skip_rest, hrest, List.drop_left]
  have hstop : (p.skip cs.length).step? cl = none := by
    cases htail' : tail with
    | nil => exact Place.step?_nil cl (hbehind.trans htail')
    | cons c cs' =>
        rw [Place.step?_cons cl (hbehind.trans htail'), htail c (by rw [htail']; rfl),
          if_neg Bool.false_ne_true]
  refine run_many_through hrest hcs ?_
  rw [run_many, hstop, Option.bind_none, Option.none_or, hk]

/-- Over characters of a class, as few as possible are all of them, if the
rest succeeds behind them and nowhere before. -/
theorem run_manyLazy_until {cl : CharClass} {q : Place} : ∀ {cs tail : List Char} {p : Place},
    p.rest = cs ++ tail → (∀ c ∈ cs, cl.holds c = true) →
    (∀ i, i < cs.length → k (p.skip i) = none) →
    k (p.skip cs.length) = some q → run (.manyLazy (.one cl)) p k = some q := by
  intro cs
  induction cs with
  | nil =>
      intro tail p _ _ _ hk
      rw [List.length_nil, Place.skip_zero] at hk
      rw [run_manyLazy, hk, Option.some_or]
  | cons c cs ih =>
      intro tail p hrest hcs hnone hk
      have hhere : k p = none := by
        have h := hnone 0 (by simp)
        rwa [Place.skip_zero] at h
      have hrest' : (p.skip 1).rest = cs ++ tail := by rw [Place.skip_rest, hrest]; rfl
      have hnext : run (.manyLazy (.one cl)) (p.skip 1) k = some q := by
        refine ih hrest' (fun d hd => hcs d (List.mem_cons_of_mem c hd)) ?_ ?_
        · intro i hi
          rw [Place.skip_skip]
          exact hnone (1 + i) (by simp; omega)
        · rwa [Place.skip_skip, Nat.add_comm]
      rw [run_manyLazy, hhere, Option.none_or, Place.step?_cons cl hrest,
        if_pos (hcs c List.mem_cons_self), Option.bind_some, hnext]

/-! ## Places with their groups -/

/-- The place `n` characters further on, with the given groups. -/
def Place.marked (p : Place) (n : Nat) (groups : List (String × List Char)) : Place :=
  { p.skip n with groups }

@[simp] theorem Place.marked_pos (p : Place) (n : Nat) (groups : List (String × List Char)) :
    (p.marked n groups).pos = p.pos + n := rfl

@[simp] theorem Place.marked_rest (p : Place) (n : Nat) (groups : List (String × List Char)) :
    (p.marked n groups).rest = p.rest.drop n := rfl

@[simp] theorem Place.marked_groups (p : Place) (n : Nat) (groups : List (String × List Char)) :
    (p.marked n groups).groups = groups := rfl

theorem Place.skip_eq_marked (p : Place) (n : Nat) : p.skip n = p.marked n p.groups := rfl

@[simp] theorem Place.marked_marked (p : Place) (n m : Nat)
    (before after : List (String × List Char)) :
    (p.marked n before).marked m after = p.marked (n + m) after := by
  have hskip : (p.marked n before).marked m after =
      { (p.skip n).skip m with groups := after } := rfl
  rw [hskip, Place.skip_skip]
  rfl

@[simp] theorem Place.marked_skip (p : Place) (n m : Nat)
    (groups : List (String × List Char)) :
    (p.marked n groups).skip m = p.marked (n + m) groups :=
  p.marked_marked n m groups groups

@[simp] theorem Place.keep_marked (p : Place) (name : String) (n : Nat)
    (groups : List (String × List Char)) :
    p.keep name (p.marked n groups) = p.marked n ((name, p.rest.take n) :: groups) := by
  show ({ p.skip n with
    groups := (name, p.rest.take (p.pos + n - p.pos)) :: groups } : Place) = _
  rw [Nat.add_sub_cancel_left]
  rfl

/-- An expression matches at a place as it runs there with nothing behind it,
as long as empty matches are allowed. -/
theorem matchAt?_true (r : Regex) : r.matchAt? true p = run r p some := by
  rw [matchAt?]
  simp

end Stencil.Regex
