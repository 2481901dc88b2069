import Stencil.Proofs.Chaining
import Stencil.Proofs.Number.Numeral
import Stencil.Template.Condition
import Stencil.Template.Filter
import Stencil.Template.Variable

/-!
# How values fail

Reading a value, writing it and comparing it with another can fail, but only
because of the value itself: it cannot be used, or it is of the wrong type.
A filter may fail in any way, and what it says is turned into a failure of
that filter unless it is none that a filter may give. So none of this ever
claims that a variable is missing.
-/

namespace Stencil

/-- The failures that are about a value. -/
def ValueFault (f : Failure) : Prop := f = .badValue ∨ f = .wrongType

/-- The failures other than a missing variable. -/
def NotMissing (f : Failure) : Prop := ∀ name, f ≠ .unresolved name

/-- The failures of asking for a part that is not there. -/
def LookupFault (f : Failure) : Prop := f = .noKey ∨ f = .noIndex

theorem ValueFault.notMissing {f : Failure} (h : ValueFault f) : NotMissing f := by
  rintro name rfl
  rcases h with h | h <;> cases h

theorem ValueFault.isRefusal {f : Failure} (h : ValueFault f) : f.isRefusal = true := by
  rcases h with rfl | rfl <;> rfl

theorem failsOnly_badValue {α : Type} :
    FailsOnly ValueFault (.error .badValue : Except Failure α) := .error (.inl rfl)

theorem failsOnly_wrongType {α : Type} :
    FailsOnly ValueFault (.error .wrongType : Except Failure α) := .error (.inr rfl)

/-! ## Reading -/

theorem Literal.read_fails (cs : List Char) : FailsOnly ValueFault (Literal.read cs) := by
  unfold Literal.read
  repeat' split
  all_goals first | exact .ok _ | exact failsOnly_badValue

theorem Literal.readArgument_fails (cs : List Char) :
    FailsOnly ValueFault (Literal.readArgument cs) := by
  refine (Literal.read_fails _).bind fun v _ => ?_
  split <;> exact .ok _

/-- A whole number with more digits than are converted. -/
def Literal.TooLong (cs : List Char) : Prop :=
  unquoted? cs = none ∧ Numeral.isWhole cs = true ∧
    Numeral.maxDigits < (Numeral.splitSign cs).2.length

theorem Literal.read_error {cs : List Char} {f : Failure} :
    read cs = .error f ↔ f = .badValue ∧ TooLong cs := by
  constructor
  · intro h
    unfold read at h
    split at h
    · cases h
    · next hplain =>
        repeat' split at h
        all_goals cases h
        next hwhole _ hnone =>
        refine ⟨rfl, hplain, hwhole, ?_⟩
        unfold Numeral.wholeValue? at hnone
        dsimp only at hnone
        split at hnone
        · assumption
        · split at hnone <;> cases hnone
  · rintro ⟨rfl, hplain, hwhole, hlong⟩
    have hnot : ∀ word : List Char, Numeral.isWhole word = false → cs ≠ word := by
      rintro _ hword rfl
      rw [hwhole] at hword
      cases hword
    have hnone : Numeral.wholeValue? cs = none := by
      rw [Numeral.wholeValue?]
      exact if_pos hlong
    rw [read, hplain]
    simp only [hnot _ (rfl : Numeral.isWhole "true".toList = false),
      hnot _ (rfl : Numeral.isWhole "false".toList = false),
      hnot _ (rfl : Numeral.isWhole "null".toList = false), if_false,
      Numeral.isPointed_of_isWhole hwhole, hwhole, hnone, Bool.false_eq_true, if_true]

theorem Literal.readArgument_error {cs : List Char} {f : Failure} :
    readArgument cs = .error f ↔ f = .badValue ∧ TooLong (Text.trim cs) := by
  rw [readArgument, bind_eq_error, read_error]
  refine ⟨fun h => ?_, .inl⟩
  rcases h with h | ⟨v, _, h⟩
  · exact h
  · split at h <;> cases h

namespace Variable

/-- The default is a number that is too long. -/
def LongDefault (v : Variable) : Prop :=
  ∃ s, v.default = some s ∧ Literal.TooLong (Text.trim (s.toList.drop 1))

/-- Some argument of the filter is a number that is too long. -/
def LongArgument (v : Variable) : Prop :=
  ∃ s, v.filterArgs = some s ∧
    ∃ cs ∈ Literal.splitArguments s.toList, Literal.TooLong (Text.trim cs)

variable {v : Variable} {f : Failure}

theorem defaultValue_error : v.defaultValue = .error f ↔ f = .badValue ∧ v.LongDefault := by
  unfold defaultValue LongDefault
  cases v.default with
  | none => simp
  | some s => simp [Literal.read_error]

theorem hasDefault_of_error (h : v.defaultValue = .error f) : v.hasDefault = true := by
  unfold defaultValue at h
  unfold hasDefault
  split at h
  · cases h
  · next s hs =>
      rw [hs]
      rfl

theorem arguments_error : v.arguments = .error f ↔ f = .badValue ∧ v.LongArgument := by
  unfold arguments LongArgument
  cases v.filterArgs with
  | none => simp
  | some s =>
      have honly : ∀ cs, FailsOnly (· = .badValue) (Literal.readArgument cs) :=
        fun cs f hf => (Literal.readArgument_error.1 hf).1
      constructor
      · intro h
        have hlong : f = .badValue := (FailsOnly.mapM fun cs _ => honly cs) f h
        subst hlong
        obtain ⟨cs, hcs, hlong⟩ := (FailsOnly.mapM_eq_error honly).1 h
        exact ⟨rfl, s, rfl, cs, hcs, (Literal.readArgument_error.1 hlong).2⟩
      · rintro ⟨rfl, _, ⟨⟩, cs, hcs, hlong⟩
        exact (FailsOnly.mapM_eq_error honly).2
          ⟨cs, hcs, Literal.readArgument_error.2 ⟨rfl, hlong⟩⟩

end Variable

/-! ## Writing -/

namespace Json

theorem writeInt_fails (n : Int) : FailsOnly ValueFault (writeInt n) := by
  rw [writeInt]
  split
  · exact .ok _
  · exact failsOnly_badValue

theorem writeKey_fails (v : Value) : FailsOnly ValueFault (writeKey v) := by
  unfold writeKey
  split
  case h_4 n => exact (writeInt_fails n).map _
  all_goals first | exact .ok _ | exact failsOnly_wrongType

mutual

theorem write_fails (style : Layout) (depth : Nat) (v : Value) :
    FailsOnly ValueFault (write style depth v) := by
  match v with
  | .null | .bool _ | .float _ | .str _ => rw [write]; exact .ok _
  | .int n => rw [write]; exact writeInt_fails n
  | .list items | .tuple items =>
      rw [write]
      exact (writeItems_fails style (depth + 1) items).bind fun parts _ => .ok _
  | .mapping entries =>
      rw [write]
      exact (writeEntries_fails style (depth + 1) entries).bind fun parts _ => .ok _
  | .set _ | .fixedSet _ | .date _ | .moment _ | .bytes _ => rw [write]; exact failsOnly_wrongType

theorem writeItems_fails (style : Layout) (depth : Nat) (items : List Value) :
    FailsOnly ValueFault (writeItems style depth items) := by
  match items with
  | [] => rw [writeItems]; exact .ok _
  | x :: xs =>
      rw [writeItems]
      exact (write_fails style depth x).bind fun part _ =>
        (writeItems_fails style depth xs).bind fun parts _ => .ok _

theorem writeEntries_fails (style : Layout) (depth : Nat) (entries : List (Value × Value)) :
    FailsOnly ValueFault (writeEntries style depth entries) := by
  match entries with
  | [] => rw [writeEntries]; exact .ok _
  | (k, v) :: rest =>
      rw [writeEntries]
      exact (writeKey_fails k).bind fun key _ => (write_fails style depth v).bind fun part _ =>
        (writeEntries_fails style depth rest).bind fun parts _ => .ok _

end

theorem standIn_fails (v : Value) : FailsOnly ValueFault (standIn v) := by
  rw [standIn]
  split
  · exact .ok _
  · exact failsOnly_badValue

theorem inOrder_fails (pairs : List (Value × Value)) : FailsOnly ValueFault (inOrder pairs) := by
  rw [inOrder]
  split
  · exact .ok _
  · exact failsOnly_badValue

mutual

theorem relaxed_fails (v : Value) : FailsOnly ValueFault (relaxed v) := by
  match v with
  | .list items | .tuple items =>
      rw [relaxed]
      exact (relaxedItems_fails items).bind fun items' _ => .ok _
  | .mapping entries =>
      rw [relaxed]
      exact (relaxedEntries_fails entries).bind fun entries' _ => .ok _
  | .set items | .fixedSet items =>
      rw [relaxed]
      exact (relaxedItems_fails items).bind fun items' _ => inOrder_fails _
  | .date _ | .moment _ | .bytes _ => rw [relaxed]; exact standIn_fails _
  | .null | .bool _ | .int _ | .float _ | .str _ => exact .ok _

theorem relaxedItems_fails (items : List Value) : FailsOnly ValueFault (relaxedItems items) := by
  match items with
  | [] => rw [relaxedItems]; exact .ok _
  | x :: xs =>
      rw [relaxedItems]
      exact (relaxed_fails x).bind fun x' _ => (relaxedItems_fails xs).bind fun xs' _ => .ok _

theorem relaxedEntries_fails (entries : List (Value × Value)) :
    FailsOnly ValueFault (relaxedEntries entries) := by
  match entries with
  | [] => rw [relaxedEntries]; exact .ok _
  | (k, v) :: rest =>
      rw [relaxedEntries]
      exact (relaxed_fails v).bind fun v' _ => (relaxedEntries_fails rest).bind fun rest' _ => .ok _

end

theorem describe_fails (v : Value) : FailsOnly ValueFault (describe v) :=
  (relaxed_fails v).bind fun v' _ => (write_fails _ _ v').map _

end Json

namespace Value

theorem intText_refused (n : Int) : FailsOnly (· = .badValue) (intText n) := by
  rw [intText]
  split
  · exact .ok _
  · exact .error rfl

theorem intText_fails (n : Int) : FailsOnly ValueFault (intText n) :=
  (intText_refused n).imp fun _ => .inl

/-- A value that is not made of others is refused only for a number that is
too long. -/
theorem render_refused {v : Value} (h : v.isStructured = false) :
    FailsOnly (· = .badValue) v.render := by
  cases v with
  | int n => exact intText_refused n
  | float x =>
      rw [render]
      split
      · exact intText_refused _
      · exact .ok _
  | list _ | tuple _ | mapping _ | set _ | fixedSet _ => cases h
  | _ => exact .ok _

theorem render_fails (v : Value) : FailsOnly ValueFault v.render := by
  unfold render
  split
  case h_3 n => exact intText_fails n
  case h_4 x =>
    split
    · exact intText_fails _
    · exact .ok _
  case h_9 => exact Json.describe_fails _
  all_goals exact .ok _

theorem renderChars_fails (v : Value) : FailsOnly ValueFault v.renderChars := (render_fails v).map _

/-! ## Comparing -/

theorem asNumber_refused (v : Value) : FailsOnly (· = .badValue) v.asNumber := by
  unfold asNumber
  split
  case h_3 s =>
    dsimp only
    split
    · split
      · exact .ok _
      · exact .error rfl
    · split <;> exact .ok _
  all_goals exact .ok _

theorem asNumber_fails (v : Value) : FailsOnly ValueFault v.asNumber :=
  (asNumber_refused v).imp fun _ => .inl

theorem commonGround_fails (a b : Value) : FailsOnly ValueFault (commonGround a b) := by
  rw [commonGround]
  split
  · exact .ok _
  · refine (asNumber_fails a).bind fun m _ => (asNumber_fails b).bind fun n _ => ?_
    split
    · exact .ok _
    · exact (render_fails a).bind fun s _ => (render_fails b).bind fun t _ => .ok _

theorem looseEquals_fails (a b : Value) : FailsOnly ValueFault (a.looseEquals b) :=
  (commonGround_fails a b).map _

theorem looseCompare_fails (a b : Value) : FailsOnly ValueFault (a.looseCompare b) :=
  (commonGround_fails a b).map _

end Value

theorem Comparison.holds_fails (op : Comparison) (a b : Value) : FailsOnly ValueFault (op.holds a b) := by
  cases op
  · exact Value.looseEquals_fails a b
  · exact .ok _
  · exact (Value.looseEquals_fails a b).map _
  · exact .ok _
  all_goals exact (Value.looseCompare_fails a b).map _

theorem Condition.parse_fails (text : String) :
    FailsOnly (fun f => f.kind = .structural) (Condition.parse text) := by
  rw [Condition.parse]
  split
  · exact .ok _
  · exact .error rfl

/-! ## Variables and filters -/

theorem Variable.defaultValue_fails (v : Variable) : FailsOnly ValueFault v.defaultValue := by
  rw [Variable.defaultValue]
  split
  · exact .ok _
  · exact Literal.read_fails _

theorem Variable.arguments_fails (v : Variable) : FailsOnly ValueFault v.arguments := by
  rw [Variable.arguments]
  split
  · exact .ok _
  · exact .mapM fun cs _ => Literal.readArgument_fails cs

theorem Registry.apply_fails (r : Registry) (name : String) (v : Value) (args : List Value) :
    FailsOnly NotMissing (r.apply name v args) := by
  have hget : FailsOnly NotMissing (r.get name) := by
    rw [Registry.get]
    split
    · exact .ok _
    · exact .error fun _ h => by cases h
  refine hget.bind fun f _ => ?_
  have hwrap : ∀ e, NotMissing (Registry.wrap name e) := by
    intro e missing h
    unfold Registry.wrap at h
    split at h
    · cases h
    · next he =>
        subst h
        exact he rfl
  cases f.run v args with
  | ok a => exact FailsOnly.ok a
  | error e => exact FailsOnly.error (hwrap e)

end Stencil
