import Stencil.JsonPath.Finder
import Stencil.Proofs.Value.JsonData

/-!
# What a path finds in JSON data

The places that a path finds in JSON data hold JSON data themselves, since a
place is a part of the value, a character of a text in it, or a list of one
part. What goes wrong on the way is that a place of another sort was asked
for, which is a refusal, or that an item was asked for that is not there; the
latter is passed on as the mapping or the list says it.
-/

namespace Stencil.JsonPath

open Stencil.Value

/-- The failures of a search. -/
def SearchFault (f : Failure) : Prop := f.isRefusal = true ∨ LookupFault f

/-- A place at which everything that leads to it is JSON data. -/
inductive Place.IsJson : Place → Prop
  | nowhere : IsJson .nowhere
  | inside {v : Value} {p : Place} : v.IsJson → IsJson p → IsJson (.inside v p)

/-- The search gives places of JSON data, or fails. -/
abbrev Finds (x : Except Failure (List Place)) : Prop :=
  Yields SearchFault (fun places => ∀ p ∈ places, p.IsJson) x

section

variable {p : Place}

theorem Place.IsJson.value (h : p.IsJson) : p.value.IsJson := by
  cases h with
  | nowhere => exact .null
  | inside hv _ => exact hv

theorem Place.IsJson.within (h : p.IsJson) : p.within.IsJson := by
  cases h with
  | nowhere => exact .nowhere
  | inside _ hp => exact hp

theorem Place.IsJson.outermost (h : p.IsJson) : p.outermost.IsJson := by
  induction h with
  | nowhere => exact .inside .null .nowhere
  | @inside v q hv hq ih =>
      cases hq with
      | nowhere => exact .inside hv .nowhere
      | inside _ _ => exact ih

/-! ## Fields and items -/

theorem findFields_json (names : List String) (h : p.IsJson) :
    ∀ q ∈ findFields names p, q.IsJson := by
  intro q hq
  rw [findFields] at hq
  split at hq
  · next entries hvalue =>
      have hentries := isJson_mapping.1 (hvalue ▸ h.value)
      split at hq
      · obtain ⟨e, he, rfl⟩ := List.mem_map.1 hq
        exact .inside (hentries e he).2 h
      · obtain ⟨name, _, hname⟩ := List.mem_filterMap.1 hq
        obtain ⟨v, hv, rfl⟩ := Option.map_eq_some_iff.1 hname
        exact .inside (lookup?_json hentries hv) h
  · cases hq

theorem item?_json {v : Value} (h : v.IsJson) (n : Int) :
    Yields SearchFault (fun found => ∀ w, found = some w → w.IsJson) (item? v n) := by
  cases h with
  | null | bool _ | int _ | float _ => exact .inl rfl
  | str s =>
      unfold item?
      dsimp only
      split
      · exact fun w hw => absurd hw (by simp)
      · split
        · rintro w ⟨⟩
          exact .str _
        · exact .inr (.inr rfl)
  | @list items hitems =>
      unfold item?
      dsimp only
      split
      · exact fun w hw => absurd hw (by simp)
      · split
        · next v hv =>
            obtain ⟨i, _, hi⟩ := Option.bind_eq_some_iff.1 hv
            rintro w ⟨⟩
            exact hitems v (List.mem_of_getElem? hi)
        · exact .inr (.inr rfl)
  | mapping hkeys hvalues =>
      unfold item?
      dsimp only
      split
      · exact fun w hw => absurd hw (by simp)
      · split
        · next v hv =>
            rintro w ⟨⟩
            exact lookup?_json (fun e he => ⟨hkeys e he, hvalues e he⟩) hv
        · exact .inr (.inl rfl)

theorem findItems_json (h : p.IsJson) : ∀ places : List Int, Finds (findItems p places) := by
  intro places
  induction places with
  | nil => exact fun q hq => absurd hq List.not_mem_nil
  | cons n places ih =>
      rw [findItems]
      split
      · exact fun q hq => absurd hq List.not_mem_nil
      · refine (item?_json h.value n).bind fun found hfound => ?_
        cases found with
        | none => exact ih
        | some v => exact ih.bind fun qs hqs => List.forall_mem_cons.2 ⟨.inside (hfound v rfl) h, hqs⟩

theorem sliceOf_fails (size : Nat) (start stop step : Option Int) :
    FailsOnly SearchFault (sliceOf size start stop step) := by
  unfold sliceOf
  dsimp only
  split
  · exact .error (.inl rfl)
  · exact .ok _

theorem findSlice_json (start stop step : Option Int) (h : p.IsJson) :
    Finds (findSlice start stop step p) := by
  have hpick : ∀ (q : Place) (items : List Value), q.IsJson → (∀ v ∈ items, v.IsJson) → Finds (do
      let places ← sliceOf items.length start stop step
      .ok ((places.filterMap fun i => items[i]?).map fun v => .inside v q)) := by
    intro q items hq hitems
    refine ((sliceOf_fails _ _ _ _).yields fun _ _ => trivial).bind fun places _ r hr => ?_
    obtain ⟨v, hv, rfl⟩ := List.mem_map.1 hr
    obtain ⟨i, _, hi⟩ := List.mem_filterMap.1 hv
    exact .inside (hitems v (List.mem_of_getElem? hi)) hq
  have hone : Finds (do
      let places ← sliceOf [p.value].length start stop step
      .ok ((places.filterMap fun i => [p.value][i]?).map fun v =>
        .inside v (.inside (.list [p.value]) p.within))) := by
    have hitems : ∀ v ∈ [p.value], v.IsJson := List.forall_mem_singleton.2 h.value
    exact hpick _ _ (.inside (.list hitems) h.within) hitems
  unfold findSlice
  dsimp only
  split
  · exact fun q hq => absurd hq List.not_mem_nil
  · have hvalue := h.value
    generalize p.value = v at hvalue hone ⊢
    cases hvalue with
    | null | float _ => exact .inl rfl
    | list hitems => exact hpick p _ h hitems
    | bool _ | int _ | str _ | mapping _ _ => exact hone

/-! ## Everywhere inside -/

/-- Two searches one after the other. -/
theorem Finds.append {x y : Except Failure (List Place)} (hx : Finds x) (hy : Finds y) :
    Finds (do .ok ((← x) ++ (← y))) :=
  hx.bind fun _ hps => hy.bind fun _ hqs => List.forall_mem_append.2 ⟨hps, hqs⟩

theorem everywhereInItems_json {find : Place → Except Failure (List Place)} {within : Place} :
    ∀ {items : List Value}, (∀ v ∈ items, Finds (everywhere find within v)) →
    Finds (everywhereInItems find within items) := by
  intro items
  induction items with
  | nil => exact fun _ p hp => absurd hp List.not_mem_nil
  | cons v items ih =>
      intro h
      obtain ⟨hv, hrest⟩ := List.forall_mem_cons.1 h
      rw [everywhereInItems]
      exact hv.append (ih hrest)

theorem everywhereInEntries_json {find : Place → Except Failure (List Place)} {within : Place} :
    ∀ {entries : List (Value × Value)}, (∀ e ∈ entries, Finds (everywhere find within e.2)) →
    Finds (everywhereInEntries find within entries) := by
  intro entries
  induction entries with
  | nil => exact fun _ p hp => absurd hp List.not_mem_nil
  | cons e entries ih =>
      intro h
      obtain ⟨he, hrest⟩ := List.forall_mem_cons.1 h
      rw [everywhereInEntries]
      exact he.append (ih hrest)

theorem everywhere_json {find : Place → Except Failure (List Place)}
    (hfind : ∀ q : Place, q.IsJson → Finds (find q)) {v : Value} (hv : v.IsJson) :
    ∀ {within : Place}, within.IsJson → Finds (everywhere find within v) := by
  induction hv with
  | list hitems ih =>
      intro within hwithin
      have hhere := Place.IsJson.inside (.list hitems) hwithin
      rw [everywhere]
      exact (hfind _ hhere).append (everywhereInItems_json fun v hv => ih v hv hhere)
  | mapping hkeys hvalues ih =>
      intro within hwithin
      have hhere := Place.IsJson.inside (.mapping hkeys hvalues) hwithin
      rw [everywhere]
      exact (hfind _ hhere).append (everywhereInEntries_json fun e he => ih e he hhere)
  | _ => exact fun hwithin => hfind _ (.inside (by constructor) hwithin)

end

/-! ## Paths -/

theorem Finds.flatten {x : Except Failure (List (List Place))}
    (hx : Yields SearchFault (fun ps => ∀ qs ∈ ps, ∀ q ∈ qs, q.IsJson) x) :
    Finds (do .ok (← x).flatten) :=
  hx.bind fun _ hps => List.forall_mem_flatten.2 hps

/-- Places are dropped by a test that may fail. -/
theorem filterM_json {keep : Place → Except Failure Bool} {places : List Place}
    (hkeep : ∀ q ∈ places, FailsOnly SearchFault (keep q)) (h : ∀ q ∈ places, q.IsJson) :
    Finds (places.filterM keep) := by
  have haux : ∀ (places acc : List Place), (∀ q ∈ places, FailsOnly SearchFault (keep q)) →
      (∀ q ∈ places, q.IsJson) → (∀ q ∈ acc, q.IsJson) → Finds (places.filterAuxM keep acc) := by
    intro places
    induction places with
    | nil => exact fun acc _ _ hacc => hacc
    | cons q places ih =>
        intro acc hkeep h hacc
        obtain ⟨hkeepq, hkeep⟩ := List.forall_mem_cons.1 hkeep
        obtain ⟨hq, h⟩ := List.forall_mem_cons.1 h
        rw [List.filterAuxM]
        refine (hkeepq.yields fun _ _ => trivial).bind fun b _ => ih _ hkeep h ?_
        cases b with
        | true => exact List.forall_mem_cons.2 ⟨hq, hacc⟩
        | false => exact hacc
  refine (haux places [] hkeep h (by simp)).bind fun found hfound => ?_
  exact fun q hq => hfound q (List.mem_reverse.1 hq)

theorem find_json (path : JsonPath) : ∀ {p : Place}, p.IsJson → Finds (find path p) := by
  induction path with
  | root => exact fun h => List.forall_mem_singleton.2 h.outermost
  | this => exact fun h => List.forall_mem_singleton.2 (.inside h.value h.within)
  | parent => exact fun h => List.forall_mem_singleton.2 h.within
  | fields names => exact findFields_json names
  | index places => exact fun h => findItems_json h places
  | slice start stop step => exact findSlice_json start stop step
  | child a b iha ihb =>
      exact fun h => (iha h).bind fun ps hps => Finds.flatten (.mapM fun q hq => ihb (hps q hq))
  | descendants a b iha ihb =>
      refine fun h => (iha h).bind fun ps hps => Finds.flatten (.mapM fun q hq => ?_)
      -- The second path is tried at every place inside of what the first finds.
      cases hps q hq with
      | nowhere => exact (ihb .nowhere).bind fun _ _ => .inl rfl
      | inside hv hwithin => exact everywhere_json (fun _ => ihb) hv hwithin
  | union a b iha ihb => exact fun h => (iha h).append (ihb h)
  | having a b iha ihb | lacking a b iha ihb =>
      refine fun h => (iha h).bind fun ps hps => filterM_json (fun q hq => ?_) hps
      exact (ihb (hps q hq)).failsOnly.bind fun _ _ => .ok _

/-- What a path finds in JSON data is JSON data. -/
theorem select_json (path : JsonPath) {v : Value} (h : v.IsJson) :
    Yields SearchFault IsJson (select path v) := by
  refine (find_json path (.inside h .nowhere)).bind fun ps hps => ?_
  refine Yields.bind (Yields.mapM (R := IsJson) fun p hp => ?_) fun values hvalues => ?_
  · cases hps p hp with
    | nowhere => exact .inl rfl
    | inside hv _ => exact hv
  split
  · exact .null
  · exact hvalues _ List.mem_cons_self
  · exact .list hvalues

end Stencil.JsonPath
