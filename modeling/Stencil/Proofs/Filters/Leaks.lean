import Stencil.Filters.Standard
import Stencil.Proofs.JsonPath.Found
import Stencil.Proofs.Yaml.Faults

/-!
# What the standard filters fail with

A filter that is given JSON data gives JSON data or refuses, and a refusal
becomes a failure of that filter. That holds of all standard filters but four.
Reading YAML can give values that are no JSON data, and asks some texts for
more than they hold; a path can ask a mapping or a list for an item that is
not there; a length can be infinite, and an amount too large for a floating
number. `Leaks` lists these, and `apply_standard` says that nothing else gets
past the registry.
-/

namespace Stencil

open Stencil.Value

/-- A failure that becomes one of the filter. -/
def Refusal (f : Failure) : Prop := f.isRefusal = true

theorem refusal_badValue {f : Failure} (h : f = .badValue) : Refusal f := by
  rw [h]
  rfl

theorem Value.renderChars_refusal (v : Value) : FailsOnly Refusal v.renderChars :=
  (renderChars_fails v).imp fun _ => ValueFault.isRefusal

/-! ## What actions are made of -/

theorem Html.unescape_fails (cs : List Char) : FailsOnly (· = .badValue) (unescape cs) := by
  have hreference : ∀ cs, FailsOnly (· = .badValue) (reference? cs) := by
    intro cs
    unfold reference?
    split
    · dsimp only
      refine .ite (.ite (.error rfl) (.ok _)) ?_
      split
      · exact .ite (.ok _) (.ok _)
      · exact .ok _
    · dsimp only
      refine .ite (.ok _) ?_
      split <;> exact .ok _
  have hfrom : ∀ (tries : Nat) (cs : List Char),
      FailsOnly (· = .badValue) (unescapeFrom tries cs) := by
    intro tries
    induction tries with
    | zero => exact fun cs => .ok _
    | succ tries ih =>
        intro cs
        cases cs with
        | nil => exact .ok _
        | cons c cs =>
            rw [unescapeFrom]
            refine .ite ((hreference cs).bind fun found _ => ?_) ((ih cs).bind fun _ _ => .ok _)
            split <;> exact (ih _).bind fun _ _ => .ok _
  exact hfrom _ cs

theorem Directive.format_fails (m : Moment) (cs : List Char) :
    FailsOnly (· = .badValue) (format m cs) := by
  have hoffset : FailsOnly (· = .badValue) (offsetText m) := by
    rw [offsetText]
    split
    · exact .ok _
    · exact .ite (.ok _) (.error rfl)
  have hputIn : ∀ cs, FailsOnly (· = .badValue) (putIn m cs) := by
    intro cs
    induction cs using putIn.induct with
    | case1 c cs ih =>
        rw [putIn]
        refine ih.bind fun rest _ => .ite ?_ (.ite (.ok _) (.ite (.ok _) (.ok _)))
        exact hoffset.bind fun _ _ => .ok _
    | case2 c cs hnot ih =>
        rw [putIn]
        · exact ih.bind fun _ _ => .ok _
        · exact hnot
    | case3 => exact .ok _
  exact (hputIn _).bind fun _ _ => .ok _

namespace Yaml.Represent

theorem items_refused : ∀ {vs : List Value}, (∀ v ∈ vs, FailsOnly (· = .badValue) (node v)) →
    FailsOnly (· = .badValue) (items vs) := by
  intro vs
  induction vs with
  | nil => exact fun _ => .ok _
  | cons v vs ih =>
      intro h
      obtain ⟨hv, hrest⟩ := List.forall_mem_cons.1 h
      rw [items]
      exact hv.bind fun _ _ => (ih hrest).bind fun _ _ => .ok _

theorem entries_refused : ∀ {es : List (Value × Value)},
    (∀ e ∈ es, FailsOnly (· = .badValue) (node e.1)) →
    (∀ e ∈ es, FailsOnly (· = .badValue) (node e.2)) →
    ∀ part ∈ entries es, FailsOnly (· = .badValue) part.2 := by
  intro es
  induction es with
  | nil => exact fun _ _ _ hpart => absurd hpart List.not_mem_nil
  | cons e es ih =>
      intro hkeys hvalues
      obtain ⟨hkey, hkeysRest⟩ := List.forall_mem_cons.1 hkeys
      obtain ⟨hvalue, hrest⟩ := List.forall_mem_cons.1 hvalues
      rw [entries]
      refine List.forall_mem_cons.2 ⟨?_, ih hkeysRest hrest⟩
      exact hkey.bind fun _ _ => hvalue.bind fun _ _ => .ok _

theorem mem_inKeyOrder {α : Type} {es : List (Value × α)} {e : Value × α}
    (h : e ∈ inKeyOrder es) : e ∈ es := by
  rw [inKeyOrder] at h
  split at h
  · exact List.mem_mergeSort.1 h
  · exact h

theorem node_refused {v : Value} (h : v.IsJson) : FailsOnly (· = .badValue) (node v) := by
  induction h with
  | int n =>
      unfold node
      rw [scalar?]
      cases Numeral.intText? n with
      | none => exact .error rfl
      | some s => exact .ok _
  | list _ ih => rw [node]; exact (items_refused ih).map _
  | mapping hkeys _ ih =>
      rw [node]
      refine FailsOnly.map (.mapM fun part hpart => ?_) _
      refine entries_refused (fun e he => ?_) ih part (mem_inKeyOrder hpart)
      obtain ⟨s, hs⟩ := hkeys e he
      rw [hs]
      exact .ok _
  | _ => exact .ok _

end Yaml.Represent

/-- JSON data has a YAML form unless a whole number in it is too long. -/
theorem Yaml.write_refused {v : Value} (h : v.IsJson) : FailsOnly (· = .badValue) (write v) :=
  (Represent.node_refused h).map _

namespace Standard

/-! ## Actions that stay within JSON data -/

/-- The outcome is JSON data or a refusal. -/
abbrev Behaves (x : Except Failure Value) : Prop := Yields Refusal IsJson x

/-- An action that makes JSON data out of JSON data, or refuses it. -/
def Tame (a : Action) : Prop :=
  ∀ v args, v.IsJson → (∀ arg ∈ args, arg.IsJson) → Behaves (a v args)

theorem behaves_wrongType : Behaves (.error .wrongType) := rfl

theorem behaves_badValue : Behaves (.error .badValue) := rfl

theorem Behaves.text {v : Value} (f : List Char → List Char) :
    Behaves (v.renderChars.map fun cs => ofChars (f cs)) :=
  ((renderChars_refusal v).yields fun _ _ => trivial).map fun _ _ => .str _

section

variable {f : Value → Except Failure Value} {g : Value → Value → Except Failure Value}
  {k : Value → Value → Value → Except Failure Value} {usual usual' : Value}

theorem alone_tame (hf : ∀ v, v.IsJson → Behaves (f v)) : Tame (alone f) := by
  intro v args hv _
  unfold alone
  split
  · exact hf v hv
  · exact behaves_wrongType

theorem onText_tame (f : List Char → List Char) : Tame (onText f) :=
  alone_tame fun _ _ => .text f

theorem withOptional_tame (husual : usual.IsJson)
    (hg : ∀ v arg, v.IsJson → arg.IsJson → Behaves (g v arg)) : Tame (withOptional usual g) := by
  intro v args hv hargs
  unfold withOptional
  split
  · exact hg v usual hv husual
  · exact hg v _ hv (hargs _ List.mem_cons_self)
  · exact behaves_wrongType

theorem withTwoOptional_tame (hk : ∀ v arg arg', Behaves (k v arg arg')) :
    Tame (withTwoOptional usual usual' k) := by
  intro v args _ _
  unfold withTwoOptional
  split
  · exact hk _ _ _
  · exact hk _ _ _
  · exact hk _ _ _
  · exact behaves_wrongType

end

/-! ## The single actions -/

theorem sequence_json {v : Value} (hv : v.IsJson) : Yields Refusal
    (fun s => ∀ items, s = .items items → ∀ x ∈ items, x.IsJson) (Sequences.ofValue v) := by
  unfold Sequences.ofValue
  split
  · next items hitems =>
      rintro _ ⟨⟩
      cases hv with
      | list h =>
          cases hitems
          exact h
      | mapping _ h =>
          cases hitems
          intro x hx
          obtain ⟨e, he, rfl⟩ := List.mem_map.1 hx
          exact h e he
      | _ => cases hitems
  · refine ((renderChars_refusal v).yields fun _ _ => trivial).map fun cs _ => ?_
    rintro items ⟨⟩

theorem first_behaves {v : Value} (hv : v.IsJson) : Behaves (Sequences.first v) := by
  refine (sequence_json hv).bind fun s hs => ?_
  cases s with
  | chars cs => exact .str _
  | items items =>
      cases items with
      | nil => exact .null
      | cons x items => exact hs _ rfl x List.mem_cons_self

theorem last_behaves {v : Value} (hv : v.IsJson) : Behaves (Sequences.last v) := by
  refine (sequence_json hv).bind fun s hs => ?_
  cases s with
  | chars cs => exact .str _
  | items items =>
      show IsJson (items.getLast?.getD .null)
      cases hlast : items.getLast? with
      | none => exact .null
      | some x => exact hs _ rfl x (List.mem_of_getLast? hlast)

theorem length_behaves {v : Value} (hv : v.IsJson) : Behaves (Sequences.length v) :=
  (sequence_json hv).bind fun s _ => by cases s <;> exact .int _

theorem reverse_behaves {v : Value} (hv : v.IsJson) : Behaves (Sequences.reverse v) := by
  refine (sequence_json hv).bind fun s hs => ?_
  cases s with
  | chars cs => exact .str _
  | items items => exact .list fun x hx => hs _ rfl x (List.mem_reverse.1 hx)

theorem shuffle_behaves {v : Value} (hv : v.IsJson) : Behaves (Sequences.shuffle v) := by
  refine (sequence_json hv).bind fun s hs => ?_
  cases s with
  | chars cs => exact .str _
  | items items => exact .list (hs _ rfl)

theorem trim_behaves (v side characters : Value) : Behaves (Cutting.trim v side characters) := by
  refine .after (renderChars_refusal v) fun cs _ => ?_
  cases characters <;> first | exact .str _ | exact behaves_wrongType

theorem unescape_behaves (v : Value) : Behaves (unescape v) :=
  .after (renderChars_refusal v) fun cs _ =>
    .after ((Html.unescape_fails cs).imp fun _ => refusal_badValue) fun _ _ => .str _

theorem hash_behaves (v algorithm secret : Value) : Behaves (Coding.hash v algorithm secret) := by
  refine .after (renderChars_refusal v) fun cs _ => ?_
  dsimp only
  split
  · refine .after ((renderChars_refusal secret).map _) fun key _ => ?_
    split
    · exact behaves_badValue
    · exact .str _
  · refine .after (.ok none) fun key _ => ?_
    split
    · exact behaves_badValue
    · exact .str _

theorem encode_behaves {v : Value} (hv : v.IsJson) (encoding : Value) :
    Behaves (Coding.encode v encoding) := by
  unfold Coding.encode
  split
  · exact (((Json.text_refused _ hv).imp fun _ => refusal_badValue).yields fun _ _ => trivial).map
      fun _ _ => .str _
  · exact (((Yaml.write_refused hv).imp fun _ => refusal_badValue).yields fun _ _ => trivial).map
      fun _ _ => .str _
  · exact .text _
  · exact .text _

theorem formatDate_behaves (v pattern : Value) : Behaves (Dates.formatDate v pattern) := by
  refine .after (renderChars_refusal v) fun cs _ => ?_
  split
  · exact .str _
  · exact .after (renderChars_refusal pattern) fun letters _ =>
      .after ((Directive.format_fails _ _).imp fun _ => refusal_badValue) fun _ _ => .str _

theorem json_behaves {v : Value} (hv : v.IsJson) :
    Behaves ((Json.text .spaced v).map .str) :=
  (((Json.text_refused _ hv).imp fun _ => refusal_badValue).yields fun _ _ => trivial).map
    fun _ _ => .str _

theorem orElse_behaves {v fallback : Value} (hv : v.IsJson) (hfallback : fallback.IsJson) :
    Behaves (orElse v fallback) := by
  unfold orElse
  split
  · exact hfallback
  · exact hfallback
  · exact hv

end Standard

/-! ## What gets past the registry -/

/-- A failure of a standard filter that is not taken for one of the filter:
the limit of a text is infinite, an amount of money is too large, a YAML
document asks for a part that is missing, or a path does. -/
inductive Leaks (v : Value) (args : List Value) : String → Failure → Prop
  | truncate {cs : List Char} {negative : Bool} : v.renderChars = .ok cs →
      args = [.float (.infinite negative)] ∨
        (∃ ending, args = [.float (.infinite negative), ending]) →
      Leaks v args "truncate" .overflow
  | currency {n : Int} : v = .int n → Binary64.ofInt? n = none →
      args = [] ∨ (∃ symbol sign, args = [symbol] ∧ symbol.plain? = some sign) →
      Leaks v args "currency" .overflow
  | decode {cs : List Char} {f : Failure} : v.renderChars = .ok cs → args = [.str "yaml"] →
      Yaml.read cs = .error f → LookupFault f → Leaks v args "decode" f
  | query {path : Value} {cs : List Char} {p : JsonPath} {f : Failure} : args = [path] →
      path.renderChars = .ok cs → JsonPath.read cs = .ok p → p.select v = .error f →
      LookupFault f → Leaks v args "query" f

/-- A filter that is asked to read YAML. -/
def ReadsYaml (name : String) (args : List Value) : Prop := name = "decode" ∧ args = [.str "yaml"]

namespace Standard

/-- What an action of a name does with JSON data. -/
abbrev Contained (name : String) (v : Value) (args : List Value) (x : Except Failure Value) : Prop :=
  Yields (fun f => Refusal f ∨ Leaks v args name f) (fun w => w.IsJson ∨ ReadsYaml name args) x

theorem Behaves.contained {name : String} {v : Value} {args : List Value}
    {x : Except Failure Value} (h : Behaves x) : Contained name v args x :=
  h.imp (fun _ => .inl) fun _ => .inl

theorem truncate_contained (v : Value) (args : List Value) : Contained "truncate" v args
    (withOneAndOptional (.str "...") Cutting.truncate v args) := by
  have hwhole : ∀ limit, FailsOnly (fun f => Refusal f ∨
      f = .overflow ∧ ∃ negative, limit = .float (.infinite negative))
      (Cutting.wholeNumber limit) := by
    intro limit
    unfold Cutting.wholeNumber
    split
    · exact .ok _
    · exact .ok _
    · split
      · exact .error (.inr ⟨rfl, _, rfl⟩)
      · split
        · exact .ok _
        · exact .error (.inl rfl)
    · split
      · exact .ok _
      · exact .error (.inl rfl)
    · exact .error (.inl rfl)
  have hcut : ∀ limit ending, (∀ negative, limit = .float (.infinite negative) →
      args = [.float (.infinite negative)] ∨
        ∃ ending, args = [.float (.infinite negative), ending]) →
      Contained "truncate" v args (Cutting.truncate v limit ending) := by
    intro limit ending hargs
    refine .after ((renderChars_refusal v).imp fun _ => .inl) fun cs hcs => ?_
    refine .after ((hwhole limit).imp fun f hf => ?_) fun n _ => ?_
    · rcases hf with hf | ⟨rfl, negative, hlimit⟩
      · exact .inl hf
      · exact .inr (.truncate hcs (hargs negative hlimit))
    · refine .ite (.inl (.str _)) ?_
      exact .after ((renderChars_refusal ending).imp fun _ => .inl) fun _ _ => .inl (.str _)
  unfold withOneAndOptional
  split
  · exact hcut _ _ fun negative hlimit => .inl (by rw [hlimit])
  · exact hcut _ _ fun negative hlimit => .inr ⟨_, by rw [hlimit]⟩
  · exact behaves_wrongType.contained

theorem currency_contained {v : Value} (args : List Value) : Contained "currency" v args
    (withOptional (.str "$") Money.currency v args) := by
  have hamount : ∀ symbol, (∀ sign, symbol.plain? = some sign → args = [] ∨
      ∃ symbol sign, args = [symbol] ∧ symbol.plain? = some sign) →
      Contained "currency" v args (Money.currency v symbol) := by
    intro symbol hargs
    unfold Money.currency
    cases hsign : symbol.plain? with
    | none => exact behaves_badValue.contained
    | some sign =>
        simp only [ok_bind]
        split
        · split <;> exact .inl (.str _)
        · next n =>
            split
            · exact .inl (.str _)
            · next hnone => exact .inr (.currency rfl hnone (hargs sign hsign))
        · exact .inl (.str _)
        · exact .inl (.str _)
  unfold withOptional
  split
  · exact hamount _ fun _ _ => .inl rfl
  · exact hamount _ fun sign hsign => .inr ⟨_, sign, rfl, hsign⟩
  · exact behaves_wrongType.contained

theorem ofValue?_yaml {v : Value} (h : Coding.Encoding.ofValue? v = some .yaml) :
    v = .str "yaml" := by
  obtain ⟨s, hs, hfind⟩ := Option.bind_eq_some_iff.1 h
  have hname := List.find?_some hfind
  cases v with
  | str t =>
      cases hs
      rw [← eq_of_beq hname]
      rfl
  | _ => cases hs

theorem decodeText_behaves {e : Coding.Encoding} (he : e ≠ .yaml) (cs : List Char) :
    Behaves (Coding.decodeText e cs) := by
  have htext : ∀ bs, Behaves (Coding.textOf e bs) := by
    intro bs
    rw [Coding.textOf]
    split
    · exact .str _
    · exact rfl
  cases e with
  | base64 => exact .ite (htext _) behaves_badValue
  | hex =>
      rw [Coding.decodeText]
      split
      · exact htext _
      · exact behaves_badValue
  | url => exact .str _
  | json =>
      refine (Json.read_json cs).imp (fun f hf => ?_) fun _ h => h
      rcases hf with rfl | rfl <;> rfl
  | yaml => exact absurd rfl he

theorem decode_contained (v : Value) (args : List Value) : Contained "decode" v args
    (withOptional (.str "base64") Coding.decode v args) := by
  have hdecode : ∀ encoding, (encoding = .str "yaml" → args = [.str "yaml"]) →
      Contained "decode" v args (Coding.decode v encoding) := by
    intro encoding hargs
    refine .after ((renderChars_refusal v).imp fun _ => .inl) fun cs hcs => ?_
    split
    · next e he =>
        -- Of the encodings, YAML alone gives other values and other failures.
        by_cases hyaml : e = .yaml
        · rw [hyaml] at he ⊢
          have hyaml := hargs (ofValue?_yaml he)
          rw [Coding.decodeText]
          cases hread : Yaml.read cs with
          | ok w => exact .inr ⟨rfl, hyaml⟩
          | error f =>
              rcases Yaml.read_fails cs f hread with (rfl | rfl) | rfl | hf
              · exact .inl rfl
              · exact .inl rfl
              · exact .inl rfl
              · rcases hf with rfl | rfl
                · exact .inr (.decode hcs hyaml hread (.inl rfl))
                · exact .inr (.decode hcs hyaml hread (.inr rfl))
        · exact (decodeText_behaves hyaml cs).contained
    · exact .inl (.str _)
  unfold withOptional
  split
  · exact hdecode _ fun h => absurd h (by simp)
  · exact hdecode _ fun h => by rw [h]
  · exact behaves_wrongType.contained

theorem query_contained {v : Value} (hv : v.IsJson) (args : List Value) :
    Contained "query" v args (withOne query v args) := by
  unfold withOne
  split
  · next path =>
      refine .after ((renderChars_refusal path).imp fun _ => .inl) fun cs hcs => ?_
      split
      · next p hp =>
          cases hselect : p.select v with
          | ok w => exact .inl ((JsonPath.select_json p hv).of_eq_ok hselect)
          | error f =>
              rcases (JsonPath.select_json p hv).failsOnly f hselect with hf | hf
              · exact .inl hf
              · exact .inr (.query rfl hcs hp hselect hf)
      · exact behaves_badValue.contained
      · exact .inl rfl
  · exact behaves_wrongType.contained

/-- What the standard actions do with JSON data, in the order of the catalog. -/
theorem actions_contained {v : Value} {args : List Value} (hv : v.IsJson)
    (hargs : ∀ arg ∈ args, arg.IsJson) :
    ∀ e ∈ actions, Contained e.1 v args (e.2 v args) := by
  have tame : ∀ {name : String} {a : Action}, Tame a → Contained name v args (a v args) :=
    fun ha => (ha v args hv hargs).contained
  have text : ∀ {name : String} (f : List Char → List Char),
      Contained name v args (onText f v args) := fun f => tame (onText_tame f)
  simp only [actions, List.forall_mem_cons]
  refine ⟨text _, text _, text _, text _, ?first, ?last, text _, text _, text _, text _, text _,
    ?length, ?reverse, ?random, ?shuffle, truncate_contained v args, ?trim, text _, text _, ?nl2br,
    text _, ?unescape, ?hash, text _, ?encode, decode_contained v args, ?formatDate,
    currency_contained args, query_contained hv args, ?json, ?default, by simp⟩
  case first | random => exact tame (alone_tame fun _ => first_behaves)
  case last => exact tame (alone_tame fun _ => last_behaves)
  case length => exact tame (alone_tame fun _ => length_behaves)
  case reverse => exact tame (alone_tame fun _ => reverse_behaves)
  case shuffle => exact tame (alone_tame fun _ => shuffle_behaves)
  case trim => exact tame (withTwoOptional_tame trim_behaves)
  case nl2br => exact tame (withOptional_tame (.bool false) fun _ _ _ _ => .text _)
  case unescape => exact tame (alone_tame fun v _ => unescape_behaves v)
  case hash => exact tame (withTwoOptional_tame hash_behaves)
  case encode => exact tame (withOptional_tame (.str _) fun _ _ hv _ => encode_behaves hv _)
  case formatDate => exact tame (withOptional_tame (.str _) fun v p _ _ => formatDate_behaves v p)
  case json => exact tame (alone_tame fun _ => json_behaves)
  case default => exact tame (withOptional_tame (.str _) fun _ _ => orElse_behaves)

end Standard

/-! ## Registries -/

/-- Every filter of the registry is a standard one under its own name. -/
def Registry.IsStandard (r : Registry) : Prop := ∀ e ∈ r.entries, e ∈ Registry.standard.entries

theorem Registry.IsStandard.unregister {r : Registry} (h : r.IsStandard) (name : String) :
    (r.unregister name).IsStandard := fun e he => h e (List.mem_filter.1 he).1

/-- A leak is no refusal, so the registry passes it on. -/
theorem Leaks.not_refusal {v : Value} {args : List Value} {name : String} {f : Failure}
    (h : Leaks v args name f) : f.isRefusal = false := by
  cases h with
  | truncate _ _ | currency _ _ _ => rfl
  | decode _ _ _ hf | query _ _ _ _ hf => rcases hf with rfl | rfl <;> rfl

theorem Leaks.not_template {v : Value} {args : List Value} {name : String} {f : Failure}
    (h : Leaks v args name f) : f.isTemplateError = false := by
  have hnot := h.not_refusal
  rw [Failure.isRefusal, Bool.or_eq_false_iff] at hnot
  exact hnot.1

theorem Registry.wrap_leak {v : Value} {args : List Value} {name : String} {f : Failure}
    (h : Leaks v args name f) : wrap name f = f := by
  unfold wrap
  rw [h.not_refusal]
  rfl

theorem Registry.wrap_refusal {f : Failure} (name : String) (h : Refusal f) :
    (wrap name f).isTemplateError = true := by
  have hrefusal : f.isRefusal = true := h
  unfold wrap
  rw [if_pos hrefusal]
  rfl

theorem Registry.IsStandard.mem_actions {r : Registry} (hr : r.IsStandard) {name : String}
    {f : Filter} (h : r.find? name = some f) : (name, f.run) ∈ Standard.actions := by
  obtain ⟨front, back, hentries, _⟩ := List.lookup_eq_some_iff.1 h
  have hmem := hr (name, f) (by rw [hentries]; simp)
  obtain ⟨e, he, heq⟩ := List.mem_map.1 hmem
  cases heq
  exact he

/-- With standard filters and JSON data, what gets past the registry is a
mistake of the template or one of the leaks; and what a filter gives is JSON
data unless it was read as YAML. -/
theorem Registry.apply_standard {r : Registry} (hr : r.IsStandard) (name : String) {v : Value}
    {args : List Value} (hv : v.IsJson) (hargs : ∀ arg ∈ args, arg.IsJson) :
    Yields (fun f => f.isTemplateError = true ∨ Leaks v args name f)
      (fun w => w.IsJson ∨ ReadsYaml name args) (r.apply name v args) := by
  rw [apply, get]
  cases hfind : r.find? name with
  | none => exact .inl rfl
  | some f =>
      refine (Standard.actions_contained hv hargs _ (hr.mem_actions hfind)).mapError fun e he => ?_
      rcases he with he | he
      · exact .inl (wrap_refusal name he)
      · rw [wrap_leak he]
        exact .inr he

end Stencil
