import Mathlib
import Stencil.Proofs.Chaining
import Stencil.Proofs.Sorting
import Stencil.Proofs.Value.Displayed
import Stencil.Value.Order

/-!
# The order of set elements is one of the elements alone

A set of null, truth values, whole numbers and texts is sorted by one of two
keys. Where all its elements can be compared, that is what they count as: a
number or a text. Where some cannot, it is their full notation. Either key
tells the elements of a set apart, so the order they are written in does not
depend on the order they were found in.
-/

namespace Stencil.Value

/-! ## What values count as -/

/-- What a value is compared as: a number, a text, or nothing, which comes
before all else. -/
def standing : Value → WithBot (Int ⊕ₗ String)
  | .bool b => ↑(Sum.inlₗ (b.toNat : Int) : Int ⊕ₗ String)
  | .int n => ↑(Sum.inlₗ n : Int ⊕ₗ String)
  | .str s => ↑(Sum.inrₗ s : Int ⊕ₗ String)
  | _ => ⊥

section

variable {v w : Value}

theorem same_iff_standing (hv : v.IsAtom) (hw : w.IsAtom) :
    same v w = true ↔ v.standing = w.standing := by
  cases hv <;> cases hw <;> simp [same, sameScalar, number?, Number.compare?, standing]

theorem less?_iff_standing (hv : v.IsAtom) (hw : w.IsAtom) {b : Bool} (h : less? v w = some b) :
    b = true ↔ v.standing < w.standing := by
  cases hv <;> cases hw <;> simp [less?, number?, Number.compare?] at h <;>
    simp [← h, standing, compare_lt_iff_lt]

/-- Two values that can be compared, whichever comes first. -/
def Comparable (v w : Value) : Prop := (less? v w).isSome = true ∧ (less? w v).isSome = true

instance : Std.Symm Comparable := ⟨fun _ _ h => ⟨h.2, h.1⟩⟩

theorem areComparable_iff {vs : List Value} : areComparable vs = true ↔ vs.Pairwise Comparable := by
  induction vs with
  | nil => simp [areComparable]
  | cons v vs ih =>
      rw [areComparable, List.pairwise_cons, Bool.and_eq_true, ih, List.all_eq_true]
      simp only [Bool.and_eq_true, Comparable]

theorem areComparable_perm {vs ws : List Value} (h : vs.Perm ws) :
    areComparable vs = areComparable ws := by
  rw [Bool.eq_iff_iff, areComparable_iff, areComparable_iff]
  exact h.pairwise_iff fun h => ⟨h.2, h.1⟩

end

/-! ## The two keys -/

section

variable {α : Type} {value : α → Value} {xs : List α}

/-- In a comparable set the natural order is that of what the elements count as. -/
theorem less?_getD (hatoms : ∀ a ∈ xs, (value a).IsAtom)
    (hcomparable : areComparable (xs.map value) = true) :
    ∀ a ∈ xs, ∀ b ∈ xs, (!((less? (value b) (value a)).getD false)) =
      decide ((value a).standing ≤ (value b).standing) := by
  intro a ha b hb
  cases hc : less? (value b) (value a) with
  | some c =>
      have hless := less?_iff_standing (hatoms b hb) (hatoms a ha) hc
      rw [Option.getD_some, Bool.eq_iff_iff, Bool.not_eq_true', decide_eq_true_iff, ← not_lt,
        ← hless, Bool.not_eq_true]
  | none =>
      -- Only with itself may an element of such a set not be comparable.
      have heq : value a = value b := by
        by_contra hne
        have hpair := (areComparable_iff.1 hcomparable).forall (List.mem_map_of_mem ha)
          (List.mem_map_of_mem hb) hne
        rw [Comparable, hc] at hpair
        cases hpair.2
      rw [heq, Option.getD_none, decide_eq_true le_rfl]
      rfl

theorem inSetOrder?_standing (hatoms : ∀ a ∈ xs, (value a).IsAtom)
    (hcomparable : areComparable (xs.map value) = true) :
    inSetOrder? value xs =
      some (xs.mergeSort fun a b => decide ((value a).standing ≤ (value b).standing)) := by
  rw [inSetOrder?, if_pos hcomparable, mergeSort_congr (less?_getD hatoms hcomparable)]

/-- The full notation of a value that has one. -/
def displayText (v : Value) : String := v.display?.getD ""

theorem display?_eq_displayText {v : Value} (h : v.IsAtom) : v.display? = some v.displayText := by
  obtain ⟨s, hs⟩ := h.displayed
  rw [displayText, hs, Option.getD_some]

/-- Otherwise the order is that of the full notations. -/
theorem inSetOrder?_displayed (hatoms : ∀ a ∈ xs, (value a).IsAtom)
    (hmixed : areComparable (xs.map value) = false) :
    inSetOrder? value xs =
      some (xs.mergeSort fun a b => decide ((value a).displayText ≤ (value b).displayText)) := by
  have hkeyed : xs.mapM (fun a => do some ((← (value a).display?), a)) =
      some (xs.map fun a => ((value a).displayText, a)) := by
    refine mapM_eq_pure_map fun a ha => ?_
    rw [display?_eq_displayText (hatoms a ha)]
    rfl
  have hback : (xs.map fun a => ((value a).displayText, a)).map Prod.snd = xs := by
    rw [List.map_map]
    exact List.map_id xs
  have hsorted : ((xs.map fun a => ((value a).displayText, a)).mergeSort
      fun a b => !(b.1 < a.1)).map Prod.snd =
        xs.mergeSort fun a b => decide ((value a).displayText ≤ (value b).displayText) := by
    rw [← congrArg (List.mergeSort · _) hback]
    refine List.map_mergeSort fun a ha b hb => ?_
    obtain ⟨a, -, rfl⟩ := List.mem_map.1 ha
    obtain ⟨b, -, rfl⟩ := List.mem_map.1 hb
    rw [← decide_not]
    simp only [not_lt]
  rw [inSetOrder?, hmixed, if_neg Bool.false_ne_true, hkeyed, ← hsorted]
  rfl

/-- However the elements are enumerated, they are written in one order. -/
theorem inSetOrder?_perm (hatoms : ∀ a ∈ xs, (value a).IsAtom)
    (hdistinct : (xs.map fun a => (value a).standing).Nodup) :
    ∃ zs, zs.Perm xs ∧ ∀ ys, xs.Perm ys → inSetOrder? value ys = some zs := by
  have hstanding := List.inj_on_of_nodup_map hdistinct
  have hatoms' : ∀ ys, xs.Perm ys → ∀ a ∈ ys, (value a).IsAtom := fun ys hperm a ha =>
    hatoms a (hperm.mem_iff.2 ha)
  cases hnatural : areComparable (xs.map value) with
  | true =>
      let sorted := xs.mergeSort fun a b => decide ((value a).standing ≤ (value b).standing)
      refine ⟨sorted, List.mergeSort_perm xs _, fun ys hperm => ?_⟩
      rw [areComparable_perm (hperm.map value)] at hnatural
      rw [inSetOrder?_standing (hatoms' ys hperm) hnatural]
      exact congrArg some (mergeSort_eq_of_perm hperm hstanding).symm
  | false =>
      let sorted := xs.mergeSort fun a b => decide ((value a).displayText ≤ (value b).displayText)
      refine ⟨sorted, List.mergeSort_perm xs _, fun ys hperm => ?_⟩
      rw [areComparable_perm (hperm.map value)] at hnatural
      rw [inSetOrder?_displayed (hatoms' ys hperm) hnatural]
      refine congrArg some (mergeSort_eq_of_perm hperm ?_).symm
      intro a ha b hb heq
      have hsame : (value a).display? = (value b).display? := by
        rw [display?_eq_displayText (hatoms a ha), display?_eq_displayText (hatoms b hb), heq]
      exact hstanding ha hb
        (congrArg standing (display?_injective (hatoms a ha) (hatoms b hb) hsame))

end

end Stencil.Value
