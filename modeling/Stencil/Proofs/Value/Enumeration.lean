import Stencil.Proofs.Json.ReadBack
import Stencil.Proofs.Value.SetOrder
import Stencil.Value.Rendering

/-!
# The order of enumeration leaves no trace

A set has no order, but whoever goes through it finds its elements in one. Two
values that differ in nothing but that order, at any depth, have one text: the
JSON text of the value in which every set is a list of its elements.

The induction is on the value. What it carries is that some one value without
sets is what every reordering is relaxed to.
-/

namespace Stencil

/-! ## Lists side by side -/

section

variable {α β γ : Type} {R : α → β → Prop} {S : α → γ → Prop} {T : γ → β → Prop}

theorem exists_forall₂ : ∀ {as : List α}, (∀ a ∈ as, ∃ b, R a b) → ∃ bs, List.Forall₂ R as bs := by
  intro as
  induction as with
  | nil => exact fun _ => ⟨[], .nil⟩
  | cons a as ih =>
      intro h
      obtain ⟨⟨b, hb⟩, hrest⟩ := List.forall_mem_cons.1 h
      obtain ⟨bs, hbs⟩ := ih hrest
      exact ⟨b :: bs, .cons hb hbs⟩

/-- Two lists that are each item by item related to a third are related to each other. -/
theorem forall₂_join (hjoin : ∀ a b c, R a b → S a c → T c b) {as : List α} {bs : List β}
    (h : List.Forall₂ R as bs) : ∀ {cs : List γ}, List.Forall₂ S as cs → List.Forall₂ T cs bs := by
  induction h with
  | nil => rintro _ ⟨⟩; exact .nil
  | cons hb _ ih => rintro _ (_ | ⟨hc, hcs⟩); exact .cons (hjoin _ _ _ hb hc) (ih hcs)

end

namespace Value

/-! ## Values that differ at their sets -/

/-- The same lists and mappings, with `leaf` between what stands at the end. -/
inductive Alike (leaf : Value → Value → Prop) : Value → Value → Prop
  | leaf {v w : Value} : leaf v w → Alike leaf v w
  | list {xs ys : List Value} : List.Forall₂ (Alike leaf) xs ys → Alike leaf (.list xs) (.list ys)
  | mapping {xs ys : List (Value × Value)} : xs.map (·.1) = ys.map (·.1) →
      List.Forall₂ (Alike leaf) (xs.map (·.2)) (ys.map (·.2)) →
      Alike leaf (.mapping xs) (.mapping ys)

/-- Nothing has changed but the order in which a set is enumerated. -/
inductive SameElements : Value → Value → Prop
  | refl (v : Value) : SameElements v v
  | set {xs ys : List Value} : xs.Perm ys → SameElements (.set xs) (.set ys)
  | fixedSet {xs ys : List Value} : xs.Perm ys → SameElements (.fixedSet xs) (.fixedSet ys)

/-- A set has become a list that holds each of its elements once. -/
inductive AsList : Value → Value → Prop
  | plain {v : Value} : v.isStructured = false → AsList v v
  | set {xs ys : List Value} : xs.Perm ys → AsList (.set xs) (.list ys)
  | fixedSet {xs ys : List Value} : xs.Perm ys → AsList (.fixedSet xs) (.list ys)

/-- The same value, its sets enumerated in whatever order. -/
abbrev Reordered : Value → Value → Prop := Alike SameElements

/-- The second value is the first with a list in the place of every set. -/
abbrev Listed : Value → Value → Prop := Alike AsList

/-- The elements of a set: no two of them the same, and none that consists of others. -/
structure AtomSet (items : List Value) : Prop where
  atoms : ∀ v ∈ items, v.IsAtom
  distinct : items.Pairwise fun v w => same v w = false

/-- Lists and mappings by text over null, truth values, whole numbers that are
not too long, texts, and sets of these four. -/
inductive IsListable : Value → Prop
  | atom {v : Value} : v.IsAtom → IsListable v
  | list {items : List Value} : (∀ v ∈ items, IsListable v) → IsListable (.list items)
  | mapping {entries : List (String × Value)} : (entries.map (·.1)).Nodup →
      (∀ e ∈ entries, IsListable e.2) →
      IsListable (.mapping (entries.map fun e => (.str e.1, e.2)))
  | set {items : List Value} : AtomSet items → IsListable (.set items)
  | fixedSet {items : List Value} : AtomSet items → IsListable (.fixedSet items)

/-! ### What a reordering looks like -/

section

variable {v w : Value}

theorem Reordered.refl (v : Value) : Reordered v v := .leaf (.refl v)

theorem IsAtom.notStructured (h : v.IsAtom) : v.isStructured = false := by
  cases h <;> rfl

theorem IsAtom.isExact (h : v.IsAtom) : v.IsExact := by
  cases h with
  | null => exact .null
  | bool b => exact .bool b
  | int hlength => exact .int hlength
  | str s => exact .str s

theorem Reordered.isStructured (h : Reordered v w) : v.isStructured = w.isStructured := by
  cases h with
  | leaf h => cases h <;> rfl
  | _ => rfl

theorem Reordered.eq_of_plain (h : Reordered v w) (hv : v.isStructured = false) : w = v := by
  cases h with
  | leaf h =>
      cases h with
      | refl => rfl
      | _ => cases hv
  | _ => cases hv

theorem Reordered.of_list {items : List Value} (h : Reordered (.list items) w) :
    ∃ ws, w = .list ws ∧ List.Forall₂ Reordered items ws := by
  cases h with
  | leaf h =>
      -- A list is also a reordering of itself as a whole, and so are its items.
      cases h
      exact ⟨_, rfl, List.forall₂_same.2 fun v _ => .refl v⟩
  | list h => exact ⟨_, rfl, h⟩

theorem Reordered.of_mapping {entries : List (Value × Value)} (h : Reordered (.mapping entries) w) :
    ∃ ws, w = .mapping ws ∧ entries.map (·.1) = ws.map (·.1) ∧
      List.Forall₂ Reordered (entries.map (·.2)) (ws.map (·.2)) := by
  cases h with
  | leaf h =>
      cases h
      exact ⟨_, rfl, rfl, List.forall₂_same.2 fun v _ => .refl v⟩
  | mapping hkeys hvalues => exact ⟨_, rfl, hkeys, hvalues⟩

theorem Reordered.of_set {items : List Value} (h : Reordered (.set items) w) :
    ∃ ws, w = .set ws ∧ items.Perm ws := by
  cases h with
  | leaf h =>
      cases h with
      | refl => exact ⟨_, rfl, .refl items⟩
      | set hperm => exact ⟨_, rfl, hperm⟩

theorem Reordered.of_fixedSet {items : List Value} (h : Reordered (.fixedSet items) w) :
    ∃ ws, w = .fixedSet ws ∧ items.Perm ws := by
  cases h with
  | leaf h =>
      cases h with
      | refl => exact ⟨_, rfl, .refl items⟩
      | fixedSet hperm => exact ⟨_, rfl, hperm⟩

end

/-! ## One value for all reorderings -/

/-- Every reordering of the first value is relaxed to the second, which has
lists in the place of its sets and is read back from its text. -/
structure Settles (v v' : Value) : Prop where
  exact : v'.IsExact
  listed : Listed v v'
  relaxed : ∀ w, Reordered v w → Json.relaxed w = .ok v'

theorem settles_atom {v : Value} (h : v.IsAtom) : Settles v v where
  exact := h.isExact
  listed := .leaf (.plain h.notStructured)
  relaxed w hw := by
    rw [hw.eq_of_plain h.notStructured]
    exact Json.relaxed_json h.isExact.isJson

theorem relaxedItems_settled {items items' ws : List Value}
    (h : List.Forall₂ Settles items items') (hws : List.Forall₂ Reordered items ws) :
    Json.relaxedItems ws = .ok items' :=
  Json.relaxedItems_eq_ok (forall₂_join (fun _ _ w hv hw => hv.relaxed w hw) h hws)

theorem exact_of_settled {items items' : List Value} (h : List.Forall₂ Settles items items') :
    ∀ v ∈ items', v.IsExact := by
  induction h with
  | nil => exact fun _ hv => absurd hv List.not_mem_nil
  | cons hv _ ih => exact List.forall_mem_cons.2 ⟨hv.exact, ih⟩

theorem settles_list {items items' : List Value} (h : List.Forall₂ Settles items items') :
    Settles (.list items) (.list items') where
  exact := .list (exact_of_settled h)
  listed := .list (h.imp fun _ _ hv => hv.listed)
  relaxed w hw := by
    obtain ⟨ws, rfl, hws⟩ := hw.of_list
    rw [Json.relaxed, relaxedItems_settled h hws]
    rfl

theorem settles_mapping {entries entries' : List (String × Value)}
    (hnodup : (entries.map (·.1)).Nodup) (hkeys : entries'.map (·.1) = entries.map (·.1))
    (h : List.Forall₂ Settles (entries.map (·.2)) (entries'.map (·.2))) :
    Settles (.mapping (entries.map fun e => (.str e.1, e.2)))
      (.mapping (entries'.map fun e => (.str e.1, e.2))) := by
  have hkeysOf : ∀ entries : List (String × Value),
      (entries.map fun e => (Value.str e.1, e.2)).map (·.1) = (entries.map (·.1)).map .str := by
    simp
  have hvaluesOf : ∀ entries : List (String × Value),
      (entries.map fun e => (Value.str e.1, e.2)).map (·.2) = entries.map (·.2) := by
    simp
  refine ⟨?_, ?_, fun w hw => ?_⟩
  · exact .mapping (hkeys ▸ hnodup) (List.forall_mem_map.1 (exact_of_settled h))
  · refine .mapping ?_ ?_
    · rw [hkeysOf, hkeysOf, hkeys]
    · rw [hvaluesOf, hvaluesOf]
      exact h.imp fun _ _ hv => hv.listed
  · obtain ⟨ws, rfl, hwkeys, hwvalues⟩ := hw.of_mapping
    rw [hvaluesOf] at hwvalues
    have hzip : (ws.map (·.1)).zip (entries'.map (·.2)) =
        entries'.map fun e => (.str e.1, e.2) := by
      refine (List.zip_of_prod ?_ (hvaluesOf entries')).symm
      rw [← hwkeys, hkeysOf, hkeysOf, hkeys]
    rw [Json.relaxed, Json.relaxedEntries_eq_zip, relaxedItems_settled h hwvalues, ← hzip]
    rfl

/-! ### Sets -/

theorem AtomSet.standing_nodup {items : List Value} (h : AtomSet items) :
    (items.map standing).Nodup := by
  refine List.pairwise_map.2 (h.distinct.imp_of_mem fun hv hw hdiffer heq => ?_)
  rw [(same_iff_standing (h.atoms _ hv) (h.atoms _ hw)).2 heq] at hdiffer
  cases hdiffer

theorem zip_self (items : List Value) : items.zip items = items.map fun v => (v, v) := by
  induction items with
  | nil => rfl
  | cons v items ih => rw [List.zip_cons_cons, ih, List.map_cons]

/-- There is one order that the elements of a set are put in. -/
theorem AtomSet.inOrder {items : List Value} (h : AtomSet items) :
    ∃ zs, items.Perm zs ∧ ∀ ws, items.Perm ws → Json.inOrder (ws.zip ws) = .ok (.list zs) := by
  -- An element is sorted along with what it is written as, here itself.
  have hatoms : ∀ a ∈ items.zip items, a.1.IsAtom := fun a ha =>
    h.atoms a.1 (List.of_mem_zip ha).1
  have hdistinct : ((items.zip items).map fun a => a.1.standing).Nodup := by
    rw [zip_self, List.map_map]
    exact h.standing_nodup
  obtain ⟨zs, hperm, hsorted⟩ := inSetOrder?_perm hatoms hdistinct
  refine ⟨zs.map (·.2), ?_, fun ws hws => ?_⟩
  · have hback := hperm.map (·.2)
    rw [List.map_snd_zip le_rfl] at hback
    exact hback.symm
  · have hpairs : (items.zip items).Perm (ws.zip ws) := by
      rw [zip_self, zip_self]
      exact hws.map _
    rw [Json.inOrder, hsorted _ hpairs]

theorem AtomSet.relaxedItems {items : List Value} (h : AtomSet items) {ws : List Value}
    (hws : items.Perm ws) : Json.relaxedItems ws = .ok ws := by
  refine Json.relaxedItems_eq_ok (List.forall₂_same.2 fun v hv => ?_)
  exact Json.relaxed_json (h.atoms v (hws.mem_iff.2 hv)).isExact.isJson

theorem settles_set {items : List Value} (h : AtomSet items) :
    ∃ zs, Settles (.set items) (.list zs) ∧ Settles (.fixedSet items) (.list zs) := by
  obtain ⟨zs, hperm, hsorted⟩ := h.inOrder
  have hexact : IsExact (.list zs) :=
    .list fun v hv => (h.atoms v (hperm.mem_iff.2 hv)).isExact
  refine ⟨zs, ⟨hexact, .leaf (.set hperm), fun w hw => ?_⟩,
    ⟨hexact, .leaf (.fixedSet hperm), fun w hw => ?_⟩⟩
  · obtain ⟨ws, rfl, hws⟩ := hw.of_set
    rw [Json.relaxed, h.relaxedItems hws]
    exact hsorted ws hws
  · obtain ⟨ws, rfl, hws⟩ := hw.of_fixedSet
    rw [Json.relaxed, h.relaxedItems hws]
    exact hsorted ws hws

/-! ## Values -/

theorem IsListable.settles {v : Value} (h : v.IsListable) : ∃ v', Settles v v' := by
  induction h with
  | @atom v h => exact ⟨v, settles_atom h⟩
  | list _ ih =>
      obtain ⟨items', hitems⟩ := exists_forall₂ ih
      exact ⟨_, settles_list hitems⟩
  | @mapping entries hkeys _ ih =>
      obtain ⟨values', hvalues⟩ := exists_forall₂ (List.forall_mem_map.2 ih)
      have hlength : (entries.map (·.1)).length = values'.length := by
        rw [← hvalues.length_eq, List.length_map, List.length_map]
      refine ⟨_, settles_mapping hkeys (List.map_fst_zip hlength.le) ?_⟩
      rwa [List.map_snd_zip hlength.ge]
  | set h =>
      obtain ⟨zs, hset, -⟩ := settles_set h
      exact ⟨_, hset⟩
  | fixedSet h =>
      obtain ⟨zs, -, hset⟩ := settles_set h
      exact ⟨_, hset⟩

theorem IsListable.atom_of_unstructured {v : Value} (h : v.IsListable)
    (hv : v.isStructured = false) : v.IsAtom := by
  cases h with
  | atom h => exact h
  | _ => cases hv

theorem render_atom {v : Value} (h : v.IsAtom) : ∃ s, v.render = .ok s := by
  cases h with
  | int hlength =>
      obtain ⟨s, hs⟩ := Numeral.exists_intText? hlength
      exact ⟨s, by rw [render, intText, hs]⟩
  | _ => exact ⟨_, rfl⟩

theorem render_structured {v : Value} (h : v.isStructured = true) :
    v.render = Json.describe v := by
  cases v with
  | list _ | tuple _ | mapping _ | set _ | fixedSet _ => rfl
  | _ => cases h

/-- A value has one text, however its sets are enumerated. Where it consists of
other values, that is the JSON text of the value with a list in the place of
every set, each holding the elements of the set once. -/
theorem render_reordered {v : Value} (h : v.IsListable) :
    ∃ s, (∀ w, Reordered v w → w.render = .ok s) ∧
      (v.isStructured = true → ∃ v', Listed v v' ∧ Json.text .compact v' = .ok s ∧
        Json.read s.toList = .ok v') := by
  cases hstructured : v.isStructured with
  | false =>
      obtain ⟨s, hs⟩ := render_atom (h.atom_of_unstructured hstructured)
      refine ⟨s, fun w hw => ?_, nofun⟩
      rw [hw.eq_of_plain hstructured, hs]
  | true =>
      obtain ⟨v', hsettles⟩ := h.settles
      obtain ⟨s, htext, hread⟩ := Json.text_read Json.standard_compact hsettles.exact
      refine ⟨s, fun w hw => ?_, fun _ => ⟨v', hsettles.listed, htext, hread⟩⟩
      rw [render_structured (hw.isStructured ▸ hstructured), Json.describe, hsettles.relaxed w hw]
      exact htext

/-- Elements of four sorts that have no natural order among them. -/
theorem render_reordered_mixed :
    IsListable (.mapping [(.str "a", .list [.set [.int 2, .str "x", .null, .bool true]])]) ∧
      ∃ s, render (.mapping [(.str "a", .list [.set [.int 2, .str "x", .null, .bool true]])]) =
          .ok s ∧
        render (.mapping [(.str "a", .list [.set [.bool true, .null, .str "x", .int 2]])]) =
          .ok s := by
  have hset : AtomSet [.int 2, .str "x", .null, .bool true] :=
    ⟨by simpa using ⟨.int (by decide), .str "x", .null, .bool true⟩,
      by simp [same, sameScalar, number?, Number.compare?]⟩
  have hlist : IsListable (.list [.set [.int 2, .str "x", .null, .bool true]]) :=
    .list (List.forall_mem_singleton.2 (.set hset))
  have hlistable : IsListable
      (.mapping [(.str "a", .list [.set [.int 2, .str "x", .null, .bool true]])]) :=
    @IsListable.mapping [("a", _)] (List.nodup_singleton "a") (List.forall_mem_singleton.2 hlist)
  obtain ⟨s, hs, -⟩ := render_reordered hlistable
  refine ⟨hlistable, s, hs _ (.refl _), hs _ (.mapping rfl (.cons (.list (.cons ?_ .nil)) .nil))⟩
  exact .leaf (.set (List.reverse_perm _).symm)

end Value

end Stencil
