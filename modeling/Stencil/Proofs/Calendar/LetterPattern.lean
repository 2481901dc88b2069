import Mathlib.Data.List.SplitBy
import Stencil.Calendar.LetterPattern
import Stencil.Proofs.Text.Case

/-!
# Letter patterns run by run

The groups of a pattern are looked for from left to right, the longest first.
Every group is one letter several times over, so no group reaches past a run of
one character, and what a run becomes depends on its letter and its length only.
`directives_eq_runs` is that table: a quotient for the longest group of the
letter, and the remainder for the shorter ones.

The pattern is cut into pieces first, and each piece written afterwards, since
the same pieces are written as directives here and as parts of a date elsewhere.
-/

namespace Stencil.LetterPattern

/-- A character that is left as it is, or a group, with the letter of its
directive. -/
inductive Piece
  | plain (c : Char)
  | part (letter : Char)
deriving DecidableEq

def Piece.text (write : Char → List Char) : Piece → List Char
  | .plain c => [c]
  | .part letter => write letter

/-- The pieces of a pattern from a place on, where the next `skip` characters
belong to a group that is already taken. -/
def piecesFrom : (skip : Nat) → List Char → List Piece
  | _, [] => []
  | skip + 1, _ :: cs => piecesFrom skip cs
  | 0, c :: cs =>
      match groupAt? (c :: cs) with
      | some (n, letter) => .part letter :: piecesFrom (n - 1) cs
      | none => .plain c :: piecesFrom 0 cs

def pieces (cs : List Char) : List Piece := piecesFrom 0 cs

/-! ## Runs -/

/-- As many groups of `k` characters as there are in a run of `n`, and what is
left of the run. -/
def quotient (k : Nat) (letter : Char) (left : Nat → List Piece) (n : Nat) : List Piece :=
  List.replicate (n / k) (.part letter) ++ left (n % k)

/-- Pairs of a letter that stand for a part, and an odd letter behind them. -/
def pairs (c letter : Char) : Nat → List Piece :=
  quotient 2 letter fun left => List.replicate left (.plain c)

def yearsLeft : Nat → List Piece
  | 3 => [.part 'y', .plain 'y']
  | 2 => [.part 'y']
  | 1 => [.plain 'y']
  | _ => []

def monthsLeft : Nat → List Piece
  | 3 => [.part 'b']
  | 2 => [.part 'm']
  | 1 => [.plain 'M']
  | _ => []

def weekdaysLeft : Nat → List Piece
  | 3 => [.part 'a']
  | left => List.replicate left (.plain 'E')

/-- The pieces of a run of `n` times the character `c`. -/
def ofRun (c : Char) (n : Nat) : List Piece :=
  match c with
  | 'y' => quotient 4 'Y' yearsLeft n
  | 'M' => quotient 4 'B' monthsLeft n
  | 'E' => quotient 4 'A' weekdaysLeft n
  | 'd' => pairs 'd' 'd' n
  | 'H' => pairs 'H' 'H' n
  | 'h' => pairs 'h' 'I' n
  | 'm' => pairs 'm' 'M' n
  | 's' => pairs 's' 'S' n
  | 'a' => List.replicate n (.part 'p')
  | 'Z' => List.replicate n (.part 'z')
  | 'z' => List.replicate n (.part 'Z')
  | c => List.replicate n (.plain c)

def inRun : List Char → List Piece
  | [] => []
  | c :: cs => ofRun c (cs.length + 1)

/-- A pattern written run by run, where `write` gives the text of the group of a
directive. -/
def written (write : Char → List Char) (cs : List Char) : List Char :=
  (cs.splitBy (· == ·)).flatMap fun run => (inRun run).flatMap (Piece.text write)

section

variable {c : Char} {cs rest : List Char} {n : Nat}

/-! ## Groups in a run -/

/-- The groups of a character, longest first: their lengths and the letters of
their directives. -/
def groupsOf (c : Char) : List (Nat × Char) :=
  (groups.filter fun g => g.1.head? == some c).map fun g => (g.1.length, g.2)

theorem groups_uniform :
    ∀ g ∈ groups, g.1 ≠ [] ∧ ∀ c ∈ g.1.head?, g.1 = List.replicate g.1.length c := by decide

theorem replicate_prefix_run (hrest : rest.head? ≠ some c) {k : Nat} :
    List.replicate k c <+: List.replicate n c ++ rest ↔ k ≤ n := by
  induction n generalizing k with
  | zero =>
      cases k with
      | zero => simp
      | succ k =>
          refine ⟨fun h => ?_, fun h => absurd h (Nat.not_succ_le_zero k)⟩
          obtain ⟨back, hback⟩ := h
          rw [List.replicate_zero, List.nil_append] at hback
          exact absurd (by rw [← hback]; rfl) hrest
  | succ n ih =>
      cases k with
      | zero => simp
      | succ k =>
          rw [List.replicate_succ, List.replicate_succ, List.cons_append, List.cons_prefix_cons, ih,
            Nat.succ_le_succ_iff, and_iff_right rfl]

theorem group_prefix_run (hrest : rest.head? ≠ some c) {g : List Char × Char} (hg : g ∈ groups) :
    g.1.isPrefixOf (List.replicate (n + 1) c ++ rest) =
      (g.1.head? == some c && decide (g.1.length ≤ n + 1)) := by
  obtain ⟨hne, hsame⟩ := groups_uniform g hg
  rw [Bool.eq_iff_iff, List.isPrefixOf_iff_prefix, Bool.and_eq_true, beq_iff_eq, decide_eq_true_iff]
  constructor
  · intro h
    have hhead : g.1.head? = some c := by
      obtain ⟨d, tail, htail⟩ := List.exists_cons_of_ne_nil hne
      rw [htail, List.replicate_succ, List.cons_append] at h
      rw [htail, (List.cons_prefix_cons.1 h).1]
      rfl
    rw [hsame c hhead] at h
    exact ⟨hhead, (replicate_prefix_run hrest).1 h⟩
  · rintro ⟨hhead, hlength⟩
    rw [hsame c hhead]
    exact (replicate_prefix_run hrest).2 hlength

/-- The group that a run begins with is the longest of its character that fits
into it. None reaches past it. -/
theorem groupAt?_run (hrest : rest.head? ≠ some c) :
    groupAt? (List.replicate (n + 1) c ++ rest) = (groupsOf c).find? fun g => g.1 ≤ n + 1 := by
  have hfind : ∀ gs ⊆ groups, gs.findSome? (fun g =>
      if g.1.isPrefixOf (List.replicate (n + 1) c ++ rest) then some (g.1.length, g.2) else none) =
      ((gs.filter fun g => g.1.head? == some c).map fun g => (g.1.length, g.2)).find?
        fun g => g.1 ≤ n + 1 := by
    intro gs hgs
    induction gs with
    | nil => rfl
    | cons g gs ih =>
        obtain ⟨hg, hgs⟩ := List.cons_subset.1 hgs
        rw [List.findSome?_cons, group_prefix_run hrest hg, ih hgs, List.filter_cons]
        cases hhead : g.1.head? == some c with
        | false => rfl
        | true =>
            rw [if_pos rfl, List.map_cons, List.find?_cons]
            cases decide (g.1.length ≤ n + 1) <;> rfl
  exact hfind groups (List.Subset.refl groups)

/-! ## What a run becomes -/

/-- A run is its longest group, if one fits, and the rest of the run; where none
fits its first character is left as it is. -/
def Steps (c : Char) (n : Nat) : Prop :=
  ofRun c (n + 1) =
    match (groupsOf c).find? fun g => g.1 ≤ n + 1 with
    | some (k, letter) => .part letter :: ofRun c (n + 1 - k)
    | none => .plain c :: ofRun c n

instance (c : Char) (n : Nat) : Decidable (Steps c n) := inferInstanceAs (Decidable (_ = _))

/-- Whole groups are taken off a run one by one, and what is shorter than a
group is a matter of cases. -/
theorem steps_quotient (k : Nat) (letter : Char) (left : Nat → List Piece)
    {gs : List (Nat × Char)} (hgroups : groupsOf c = (k, letter) :: gs) (hk : 0 < k)
    (hrun : ∀ n, ofRun c n = quotient k letter left n) (hshort : ∀ n < k - 1, Steps c n) (n : Nat) :
    Steps c n := by
  by_cases hn : n < k - 1
  · exact hshort n hn
  · obtain ⟨m, hm⟩ : ∃ m, n + 1 = m + k := ⟨n + 1 - k, by omega⟩
    have hfits : decide (k ≤ m + k) = true := decide_eq_true (Nat.le_add_left k m)
    have hrest : ofRun c (m + k) = .part letter :: ofRun c m := by
      rw [hrun, hrun, quotient, quotient, Nat.add_div_right m hk, Nat.add_mod_right,
        List.replicate_succ, List.cons_append]
    rw [Steps, hm, hrest, hgroups, List.find?_cons, hfits]
    simp only [Nat.add_sub_cancel]

theorem steps_pairs {letter : Char} (hgroups : groupsOf c = [(2, letter)])
    (hrun : ∀ n, ofRun c n = pairs c letter n) (hshort : ∀ n < 1, Steps c n) (n : Nat) : Steps c n :=
  steps_quotient 2 letter _ hgroups Nat.two_pos hrun hshort n

theorem steps_single {letter : Char} (hgroups : groupsOf c = [(1, letter)])
    (hrun : ∀ n, ofRun c n = List.replicate n (.part letter)) (n : Nat) : Steps c n := by
  have hquotient : ∀ n, ofRun c n = quotient 1 letter (fun _ => []) n := fun n => by
    rw [quotient, Nat.div_one, List.append_nil, hrun]
  exact steps_quotient 1 letter _ hgroups Nat.one_pos hquotient (by simp) n

theorem steps_plain (hgroups : groupsOf c = [])
    (hrun : ∀ n, ofRun c n = List.replicate n (.plain c)) (n : Nat) : Steps c n := by
  rw [Steps, hgroups, hrun, hrun, List.replicate_succ]
  rfl

def groupLetters : List Char := ['y', 'M', 'E', 'd', 'H', 'h', 'm', 's', 'a', 'Z', 'z']

theorem head_groupLetters : ∀ g ∈ groups, ∀ c ∈ g.1.head?, c ∈ groupLetters := by decide

theorem steps (c : Char) (n : Nat) : Steps c n := by
  by_cases hc : c ∈ groupLetters
  · simp only [groupLetters, List.mem_cons, List.not_mem_nil, or_false] at hc
    rcases hc with rfl | rfl | rfl | rfl | rfl | rfl | rfl | rfl | rfl | rfl | rfl
    · exact steps_quotient 4 'Y' yearsLeft rfl (by decide) (fun _ => rfl) (by decide) n
    · exact steps_quotient 4 'B' monthsLeft rfl (by decide) (fun _ => rfl) (by decide) n
    · exact steps_quotient 4 'A' weekdaysLeft rfl (by decide) (fun _ => rfl) (by decide) n
    · exact steps_pairs rfl (fun _ => rfl) (by decide) n
    · exact steps_pairs rfl (fun _ => rfl) (by decide) n
    · exact steps_pairs rfl (fun _ => rfl) (by decide) n
    · exact steps_pairs rfl (fun _ => rfl) (by decide) n
    · exact steps_pairs rfl (fun _ => rfl) (by decide) n
    · exact steps_single rfl (fun _ => rfl) n
    · exact steps_single rfl (fun _ => rfl) n
    · exact steps_single rfl (fun _ => rfl) n
  · refine steps_plain ?_ (fun n => ?_) n
    · refine List.map_eq_nil_iff.2 (List.filter_eq_nil_iff.2 fun g hg hhead => hc ?_)
      exact head_groupLetters g hg c (by simpa using hhead)
    · unfold ofRun
      split <;> first | rfl | exact absurd (by decide) hc

/-! ## A whole pattern -/

theorem piecesFrom_drop (skip : Nat) (cs : List Char) :
    piecesFrom skip cs = pieces (cs.drop skip) := by
  induction cs generalizing skip with
  | nil => cases skip <;> rfl
  | cons c cs ih =>
      cases skip with
      | zero => rfl
      | succ skip => exact ih skip

theorem pieces_cons (c : Char) (cs : List Char) : pieces (c :: cs) =
    match groupAt? (c :: cs) with
    | some (n, letter) => .part letter :: pieces (cs.drop (n - 1))
    | none => .plain c :: pieces cs := by
  rw [pieces, piecesFrom]
  split
  · rw [piecesFrom_drop]
  · rfl

/-- The pieces that a pattern can have. A character that is a group by itself is
never left as it is. -/
def Piece.Possible : Piece → Prop
  | .plain c => [c] ∉ groups.map (·.1)
  | .part letter => letter ∈ groups.map (·.2)

theorem pieces_possible (cs : List Char) : ∀ p ∈ pieces cs, p.Possible := by
  have hfrom : ∀ skip, ∀ p ∈ piecesFrom skip cs, p.Possible := by
    induction cs with
    | nil => intro skip p hp; cases skip <;> cases hp
    | cons c cs ih =>
        intro skip
        cases skip with
        | succ skip => exact ih skip
        | zero =>
            rw [piecesFrom]
            cases hgroup : groupAt? (c :: cs) with
            | some group =>
                refine List.forall_mem_cons.2 ⟨?_, ih _⟩
                obtain ⟨g, hg, hfound⟩ := List.exists_of_findSome?_eq_some hgroup
                obtain ⟨-, hfound⟩ := Option.ite_none_right_eq_some.1 hfound
                cases hfound
                exact List.mem_map_of_mem hg
            | none =>
                refine List.forall_mem_cons.2 ⟨fun hmem => ?_, ih 0⟩
                obtain ⟨⟨group, letter⟩, hg, rfl⟩ := List.mem_map.1 hmem
                have hnone := List.findSome?_eq_none_iff.1 hgroup _ hg
                simp at hnone
  exact hfrom 0

theorem mem_of_plain {skip : Nat} (h : .plain c ∈ piecesFrom skip cs) : c ∈ cs := by
  induction cs generalizing skip with
  | nil => cases skip <;> cases h
  | cons d cs ih =>
      cases skip with
      | succ skip => exact List.mem_cons_of_mem d (ih h)
      | zero =>
          rw [piecesFrom] at h
          split at h
          · rcases List.mem_cons.1 h with h | h
            · cases h
            · exact List.mem_cons_of_mem d (ih h)
          · rcases List.mem_cons.1 h with h | h
            · cases h
              exact List.mem_cons_self
            · exact List.mem_cons_of_mem d (ih h)

theorem groupsOf_pos : ∀ g ∈ groupsOf c, 0 < g.1 := by
  intro g hg
  obtain ⟨group, hgroup, rfl⟩ := List.mem_map.1 hg
  exact List.length_pos_iff.2 (groups_uniform group (List.mem_filter.1 hgroup).1).1

theorem ofRun_zero (c : Char) : ofRun c 0 = [] := by
  unfold ofRun
  split <;> rfl

/-- The pieces of a run are its own, whatever follows it. -/
theorem pieces_run (hrest : rest.head? ≠ some c) :
    pieces (List.replicate n c ++ rest) = ofRun c n ++ pieces rest := by
  induction n using Nat.strongRecOn with
  | ind n ih =>
      cases n with
      | zero => rw [ofRun_zero]; rfl
      | succ n =>
          have hstep := steps c n
          rw [Steps] at hstep
          rw [hstep, List.replicate_succ, List.cons_append, pieces_cons, ← List.cons_append,
            ← List.replicate_succ, groupAt?_run hrest]
          cases hgroup : (groupsOf c).find? fun g => g.1 ≤ n + 1 with
          | none => exact congrArg (.plain c :: ·) (ih n (Nat.lt_succ_self n))
          | some g =>
              obtain ⟨k, letter⟩ := g
              have hk := groupsOf_pos _ (List.mem_of_find?_eq_some hgroup)
              have hfits : decide (k ≤ n + 1) = true :=
                List.find?_some (p := fun g : Nat × Char => decide (g.1 ≤ n + 1)) hgroup
              have hfits := of_decide_eq_true hfits
              have hdrop : (List.replicate n c ++ rest).drop (k - 1) =
                  List.replicate (n + 1 - k) c ++ rest := by
                rw [List.drop_append_of_le_length (by rw [List.length_replicate]; omega),
                  List.drop_replicate, show n - (k - 1) = n + 1 - k by omega]
              exact congrArg (.part letter :: ·)
                ((congrArg pieces hdrop).trans (ih _ (Nat.sub_lt (Nat.succ_pos n) hk)))

theorem inRun_replicate (c : Char) (n : Nat) :
    inRun (List.replicate (n + 1) c) = ofRun c (n + 1) := by
  rw [List.replicate_succ, inRun, List.length_replicate]

theorem pieces_flatten {runs : List (List Char)}
    (hrun : ∀ run ∈ runs, ∃ c n, run = List.replicate (n + 1) c)
    (hnext : runs.IsChain fun a b => a.getLast? ≠ b.head?) :
    pieces runs.flatten = runs.flatMap inRun := by
  induction runs with
  | nil => rfl
  | cons run runs ih =>
      obtain ⟨⟨c, n, rfl⟩, hruns⟩ := List.forall_mem_cons.1 hrun
      have hrest : runs.flatten.head? ≠ some c := by
        cases runs with
        | nil => simp
        | cons next runs =>
            obtain ⟨d, m, rfl⟩ := hruns _ List.mem_cons_self
            have hne := (List.isChain_cons_cons.1 hnext).1
            rw [List.getLast?_replicate, if_neg (Nat.succ_ne_zero n)] at hne
            rw [List.flatten_cons, List.replicate_succ, List.cons_append]
            exact Ne.symm hne
      rw [List.flatten_cons, List.flatMap_cons, pieces_run hrest, ih hruns hnext.tail,
        inRun_replicate]

theorem run_of_splitBy {run : List Char} (h : run ∈ cs.splitBy (· == ·)) :
    ∃ c n, run = List.replicate (n + 1) c := by
  obtain ⟨c, tail, rfl⟩ := List.exists_cons_of_ne_nil (List.ne_nil_of_mem_splitBy h)
  have hchain := List.isChain_of_mem_splitBy h
  simp only [beq_iff_eq] at hchain
  have hsame := List.isChain_cons_eq_iff_eq_replicate.1 hchain
  exact ⟨c, tail.length, by rw [List.replicate_succ, ← hsame]⟩

theorem pieces_eq_runs (cs : List Char) : pieces cs = (cs.splitBy (· == ·)).flatMap inRun := by
  have hnext : (cs.splitBy (· == ·)).IsChain fun a b => a.getLast? ≠ b.head? := by
    refine (List.isChain_getLast_head_splitBy (· == ·) cs).imp ?_
    rintro a b ⟨ha, hb, hne⟩
    rw [List.getLast?_eq_some_getLast ha, List.head?_eq_some_head hb]
    simpa using hne
  have hruns := pieces_flatten (fun _ hrun => run_of_splitBy hrun) hnext
  rwa [List.flatten_splitBy] at hruns

theorem directivesFrom_eq (skip : Nat) (cs : List Char) :
    directivesFrom skip cs =
      (piecesFrom skip cs).flatMap (Piece.text fun letter => ['%', letter]) := by
  induction cs generalizing skip with
  | nil => cases skip <;> rfl
  | cons c cs ih =>
      cases skip with
      | succ skip => exact ih skip
      | zero =>
          rw [directivesFrom, piecesFrom]
          cases groupAt? (c :: cs) with
          | none => exact congrArg (c :: ·) (ih 0)
          | some group => exact congrArg ('%' :: group.2 :: ·) (ih (group.1 - 1))

theorem pieces_written (write : Char → List Char) (cs : List Char) :
    (pieces cs).flatMap (Piece.text write) = written write cs := by
  rw [pieces_eq_runs, List.flatMap_assoc]
  rfl

/-- A pattern of letters is turned into directives run by run. -/
theorem directives_eq_runs (cs : List Char) :
    directives cs = written (fun letter => ['%', letter]) cs :=
  (directivesFrom_eq 0 cs).trans (pieces_written _ cs)

end

end Stencil.LetterPattern
