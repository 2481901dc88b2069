import Mathlib.Data.List.Forall2
import Stencil.Json.Reader
import Stencil.Proofs.Value.Faults

/-!
# JSON data

Null, truth values, numbers, texts, and lists and mappings of these, where a
mapping has texts as its keys. Whatever a template spells out is of this sort,
and so is whatever a JSON document holds. Such a value can be written unless a
whole number in it is too long: that is the one way it can fail, while of the
other values some have no written form at all.
-/

namespace Stencil

namespace Value

/-- A value that a JSON document can hold. -/
inductive IsJson : Value → Prop
  | null : IsJson .null
  | bool (b : Bool) : IsJson (.bool b)
  | int (n : Int) : IsJson (.int n)
  | float (x : Binary64) : IsJson (.float x)
  | str (s : String) : IsJson (.str s)
  | list {items : List Value} : (∀ v ∈ items, IsJson v) → IsJson (.list items)
  | mapping {entries : List (Value × Value)} : (∀ e ∈ entries, ∃ s, e.1 = .str s) →
      (∀ e ∈ entries, IsJson e.2) → IsJson (.mapping entries)

theorem IsJson.items {items : List Value} (h : IsJson (.list items)) : ∀ v ∈ items, v.IsJson := by
  cases h with
  | list h => exact h

/-! ## Mappings -/

theorem same_str (a b : String) : (Value.str a).same (.str b) = (a == b) := by
  simp only [same, sameScalar]

/-- An entry that a JSON object can hold. -/
def IsJsonEntry (e : Value × Value) : Prop := (∃ s, e.1 = .str s) ∧ e.2.IsJson

theorem isJson_mapping {entries : List (Value × Value)} :
    IsJson (.mapping entries) ↔ ∀ e ∈ entries, IsJsonEntry e := by
  constructor
  · intro h
    cases h with
    | mapping hkeys hvalues => exact fun e he => ⟨hkeys e he, hvalues e he⟩
  · exact fun h => .mapping (fun e he => (h e he).1) fun e he => (h e he).2

theorem insert_json {e : Value × Value} (he : IsJsonEntry e) : ∀ {entries : List (Value × Value)},
    (∀ e ∈ entries, IsJsonEntry e) → ∀ e' ∈ insert e.1 e.2 entries, IsJsonEntry e' := by
  intro entries
  induction entries with
  | nil => exact fun _ => List.forall_mem_singleton.2 he
  | cons entry entries ih =>
      intro h
      obtain ⟨hentry, hrest⟩ := List.forall_mem_cons.1 h
      rw [insert]
      split
      · exact List.forall_mem_cons.2 ⟨⟨hentry.1, he.2⟩, hrest⟩
      · exact List.forall_mem_cons.2 ⟨hentry, ih hrest⟩

theorem ofEntries_json {entries : List (Value × Value)} (h : ∀ e ∈ entries, IsJsonEntry e) :
    IsJson (.mapping (ofEntries entries)) := by
  have hfold : ∀ (more acc : List (Value × Value)), (∀ e ∈ acc, IsJsonEntry e) →
      (∀ e ∈ more, IsJsonEntry e) →
      ∀ e ∈ more.foldl (fun acc e => insert e.1 e.2 acc) acc, IsJsonEntry e := by
    intro more
    induction more with
    | nil => exact fun _ hacc _ => hacc
    | cons entry more ih =>
        intro acc hacc hmore
        obtain ⟨hentry, hrest⟩ := List.forall_mem_cons.1 hmore
        exact ih _ (insert_json hentry hacc) hrest
  exact isJson_mapping.2 (hfold entries [] (by simp) h)

theorem lookup?_json {key v : Value} {entries : List (Value × Value)}
    (h : ∀ e ∈ entries, IsJsonEntry e) (hv : lookup? key entries = some v) : v.IsJson := by
  obtain ⟨e, hfind, rfl⟩ := Option.map_eq_some_iff.1 hv
  exact (h e (List.mem_of_find?_eq_some hfind)).2

end Value

/-! ## Literals -/

namespace Literal

open Stencil.Value

theorem read_json (cs : List Char) : Yields (· = .badValue) IsJson (read cs) := by
  unfold read
  split
  · exact .str _
  · split
    · exact .bool true
    · split
      · exact .bool false
      · split
        · exact .null
        · split
          · exact .float _
          · split
            · split
              · exact .int _
              · exact rfl
            · exact .str _

theorem readArgument_json (cs : List Char) : Yields (· = .badValue) IsJson (readArgument cs) := by
  refine (read_json _).bind fun v hv => ?_
  split
  · exact .str _
  · exact hv

end Literal

theorem Variable.defaultValue_json (v : Variable) :
    Yields (· = .badValue) Value.IsJson v.defaultValue := by
  rw [Variable.defaultValue]
  split
  · exact .null
  · exact Literal.read_json _

theorem Variable.arguments_json (v : Variable) :
    Yields (· = .badValue) (fun args => ∀ a ∈ args, a.IsJson) v.arguments := by
  rw [Variable.arguments]
  split
  · exact fun a ha => absurd ha List.not_mem_nil
  · exact .mapM fun cs _ => Literal.readArgument_json cs

/-! ## Writing -/

namespace Json

open Stencil.Value

theorem writeInt_refused (n : Int) : FailsOnly (· = .badValue) (writeInt n) := by
  rw [writeInt]
  split
  · exact .ok _
  · exact .error rfl

theorem writeItems_refused {style : Layout} {depth : Nat} : ∀ {items : List Value},
    (∀ v ∈ items, FailsOnly (· = .badValue) (write style depth v)) →
    FailsOnly (· = .badValue) (writeItems style depth items) := by
  intro items
  induction items with
  | nil => exact fun _ => .ok _
  | cons v items ih =>
      intro h
      obtain ⟨hv, hrest⟩ := List.forall_mem_cons.1 h
      rw [writeItems]
      exact hv.bind fun part _ => (ih hrest).bind fun parts _ => .ok _

theorem writeEntries_refused {style : Layout} {depth : Nat} : ∀ {entries : List (Value × Value)},
    (∀ e ∈ entries, ∃ s, e.1 = .str s) →
    (∀ e ∈ entries, FailsOnly (· = .badValue) (write style depth e.2)) →
    FailsOnly (· = .badValue) (writeEntries style depth entries) := by
  intro entries
  induction entries with
  | nil => exact fun _ _ => .ok _
  | cons e entries ih =>
      intro hkeys hvalues
      obtain ⟨⟨s, hkey⟩, hkeysRest⟩ := List.forall_mem_cons.1 hkeys
      obtain ⟨hvalue, hrest⟩ := List.forall_mem_cons.1 hvalues
      obtain ⟨key, value⟩ := e
      cases hkey
      rw [writeEntries, writeKey, ok_bind]
      exact hvalue.bind fun part _ => (ih hkeysRest hrest).bind fun parts _ => .ok _

theorem write_refused (style : Layout) {v : Value} (h : v.IsJson) :
    ∀ depth, FailsOnly (· = .badValue) (write style depth v) := by
  induction h with
  | int n => intro depth; rw [write]; exact writeInt_refused n
  | list _ ih =>
      intro depth
      rw [write]
      exact (writeItems_refused fun v hv => ih v hv (depth + 1)).bind fun parts _ => .ok _
  | mapping hkeys _ ih =>
      intro depth
      rw [write]
      exact (writeEntries_refused hkeys fun e he => ih e he (depth + 1)).bind fun parts _ => .ok _
  | _ => intro depth; rw [write]; exact .ok _

theorem relaxedItems_eq_ok {items items' : List Value}
    (h : List.Forall₂ (fun v v' => relaxed v = .ok v') items items') :
    relaxedItems items = .ok items' := by
  induction h with
  | nil => rfl
  | cons hv _ ih => rw [relaxedItems, hv, ih]; rfl

/-- Of entries only the values are relaxed. -/
theorem relaxedEntries_eq_zip : ∀ entries : List (Value × Value), relaxedEntries entries =
    (relaxedItems (entries.map (·.2))).map ((entries.map (·.1)).zip ·) := by
  intro entries
  induction entries with
  | nil => rfl
  | cons e entries ih =>
      rw [relaxedEntries, List.map_cons, List.map_cons, relaxedItems, ih]
      cases relaxed e.2 with
      | error _ => rfl
      | ok v => cases relaxedItems (entries.map (·.2)) <;> rfl

/-- JSON data needs no stand-ins. -/
theorem relaxed_json {v : Value} (h : v.IsJson) : relaxed v = .ok v := by
  induction h with
  | list _ ih =>
      rw [relaxed, relaxedItems_eq_ok (List.forall₂_same.2 ih)]
      rfl
  | @mapping entries _ _ ih =>
      have hvalues : relaxedItems (entries.map (·.2)) = .ok (entries.map (·.2)) :=
        relaxedItems_eq_ok (List.forall₂_same.2 (List.forall_mem_map.2 ih))
      rw [relaxed, relaxedEntries_eq_zip, hvalues]
      show Except.ok (mapping ((entries.map (·.1)).zip (entries.map (·.2)))) = _
      rw [← List.zip_of_prod (rfl : entries.map (·.1) = _) rfl]
  | _ => rfl

theorem text_refused (style : Layout) {v : Value} (h : v.IsJson) :
    FailsOnly (· = .badValue) (text style v) := (write_refused style h 0).map _

theorem describe_refused {v : Value} (h : v.IsJson) : FailsOnly (· = .badValue) (describe v) := by
  rw [describe, relaxed_json h]
  exact text_refused _ h

end Json

/-- JSON data is refused only for a whole number that is too long. -/
theorem Value.renderChars_refused {v : Value} (h : v.IsJson) :
    FailsOnly (· = .badValue) v.renderChars := by
  refine FailsOnly.map ?_ _
  cases h with
  | list h => exact Json.describe_refused (.list h)
  | mapping hkeys hvalues => exact Json.describe_refused (.mapping hkeys hvalues)
  | _ => exact render_refused rfl

/-! ## Reading -/

namespace Json

open Stencil.Value

/-- The failures of reading a document. -/
def ReadFault (f : Failure) : Prop := f = .notJson ∨ f = .badValue

theorem readWord?_json {cs rest : List Char} {v : Value} (h : readWord? cs = some (v, rest)) :
    v.IsJson := by
  obtain ⟨e, he, hsome⟩ := List.exists_of_findSome?_eq_some h
  obtain ⟨_, _, heq⟩ := Option.map_eq_some_iff.1 hsome
  cases heq
  simp only [words, List.mem_cons, List.not_mem_nil, or_false] at he
  rcases he with rfl | rfl | rfl | rfl | rfl | rfl
  · exact .null
  · exact .bool true
  · exact .bool false
  all_goals exact .float _

theorem readString_fails : ∀ (fuel : Nat) (cs : List Char),
    FailsOnly ReadFault (readString fuel cs) := by
  intro fuel
  induction fuel with
  | zero => exact fun cs => .error (.inl rfl)
  | succ fuel ih =>
      intro cs
      cases cs with
      | nil => exact .error (.inl rfl)
      | cons c cs =>
          unfold readString
          dsimp only
          repeat' split
          all_goals first
            | exact .ok _
            | exact .error (.inl rfl)
            | exact (ih _).bind fun _ _ => .ok _

theorem readNumber_json (cs : List Char) :
    Yields ReadFault (fun r => r.1.IsJson) (readNumber cs) := by
  unfold readNumber
  repeat' split
  all_goals first
    | exact rfl
    | exact .inl rfl
    | exact .inr rfl
    | exact .int _
    | exact .float _

/-- The readers of values, items and entries, all with the same fuel. -/
theorem readers_json (fuel : Nat) :
    (∀ cs, Yields ReadFault (fun r => r.1.IsJson) (readValue fuel cs)) ∧
      (∀ cs, Yields ReadFault (fun r => ∀ v ∈ r.1, v.IsJson) (readItems fuel cs)) ∧
      ∀ cs, Yields ReadFault (fun r => ∀ e ∈ r.1, IsJsonEntry e) (readEntries fuel cs) := by
  induction fuel with
  | zero => exact ⟨fun _ => .inl rfl, fun _ => .inl rfl, fun _ => .inl rfl⟩
  | succ fuel ih =>
      obtain ⟨hvalue, hitems, hentries⟩ := ih
      refine ⟨fun cs => ?_, fun cs => ?_, fun cs => ?_⟩
      · unfold readValue
        split
        · next v rest hword => exact readWord?_json hword
        · split
          · exact ((readString_fails _ _).yields fun _ _ => trivial).bind fun _ _ => .str _
          · split
            · exact .list (by simp)
            · exact (hitems _).bind fun _ h => .list h
          · split
            · exact isJson_mapping.2 (by simp)
            · exact (hentries _).bind fun _ h => ofEntries_json h
          · exact readNumber_json _
      · rw [readItems]
        refine (hvalue cs).bind fun r hv => ?_
        obtain ⟨v, rest⟩ := r
        dsimp only
        split
        · exact List.forall_mem_singleton.2 hv
        · exact (hitems _).bind fun _ hvs => List.forall_mem_cons.2 ⟨hv, hvs⟩
        · exact .inl rfl
      · by_cases hquote : ∃ rest, cs = '"' :: rest
        · obtain ⟨rest, rfl⟩ := hquote
          rw [readEntries]
          refine ((readString_fails _ _).yields fun _ _ => trivial).bind fun r _ => ?_
          obtain ⟨key, rest⟩ := r
          dsimp only
          split
          · refine (hvalue _).bind fun r hv => ?_
            obtain ⟨v, rest⟩ := r
            have hentry : IsJsonEntry (ofChars key, v) := ⟨⟨_, rfl⟩, hv⟩
            dsimp only
            split
            · exact List.forall_mem_singleton.2 hentry
            · exact (hentries _).bind fun _ hes => List.forall_mem_cons.2 ⟨hentry, hes⟩
            · exact .inl rfl
          · exact .inl rfl
        · unfold readEntries
          split
          · exact .inl rfl
          · exact absurd ⟨_, rfl⟩ hquote
          · exact .inl rfl

theorem read_json (cs : List Char) : Yields ReadFault IsJson (read cs) := by
  refine ((readers_json _).1 _).bind fun r hv => ?_
  obtain ⟨v, rest⟩ := r
  dsimp only
  split
  · exact hv
  · exact .inl rfl

/-- A text that is one value, with nothing behind it. -/
theorem read_of_readValue {cs : List Char} {n : Nat} {v : Value} (hn : 2 * cs.length + 2 = n)
    (hv : readValue n (skipGap cs) = .ok (v, [])) : read cs = .ok v := by
  rw [read, hn, hv]
  rfl

end Json

end Stencil
