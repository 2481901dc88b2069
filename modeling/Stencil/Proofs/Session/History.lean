import Stencil.Proofs.Session.Effect

/-!
# The history of a session

What a session shows is told by the steps that led to it. Every registry shows
what it had when it was made, with the changes that were addressed to it since
then in their order, whatever happened to the others in between, and an engine
sees what its registry shows.

Names can be given again. They stand for what was made under them last, while a
registry keeps its place, and an engine on it goes on seeing it there.
-/

namespace Stencil.Session

variable {s : Session} {step : Step} {i : Nat} {name : String}

/-! ## Runs -/

def afterAll (s : Session) (steps : List Step) : Session := steps.foldl after s

/-- What the steps of a run bring, in their order, each told from the session
that it meets. -/
def told {α : Type} (brings : Session → Step → Option α) : Session → List Step → List α
  | _, [] => []
  | s, step :: rest => (brings s step).toList ++ told brings (s.after step) rest

/-- The change that a step addresses to the registry at a place. -/
def changeAt (i : Nat) (s : Session) (step : Step) : Option Change :=
  (s.changeBy step).bind fun c => if c.1 = i then some c.2 else none

/-- The name under which a step makes a registry, with the place of the registry. -/
def placedBy (s : Session) (step : Step) : Option (String × Nat) :=
  (s.madeBy step).map fun m => (m.1, s.registries.length)

theorem afterAll_cons (s : Session) (step : Step) (rest : List Step) :
    s.afterAll (step :: rest) = (s.after step).afterAll rest := rfl

theorem afterAll_append (s : Session) (front back : List Step) :
    s.afterAll (front ++ back) = (s.afterAll front).afterAll back := List.foldl_append

/-! ## Registries at their places -/

theorem registryAt_make (r : Registry) (hi : i < s.registries.length) :
    (s.make name r).registryAt i = s.registryAt i := by
  rw [registryAt, make, List.getD_eq_getElem?_getD, List.getElem?_append_left hi, registryAt,
    List.getD_eq_getElem?_getD]

theorem registryAt_make_new (r : Registry) :
    (s.make name r).registryAt s.registries.length = r := by
  rw [registryAt, make, List.getD_eq_getElem?_getD, List.getElem?_append_right le_rfl,
    Nat.sub_self]
  rfl

theorem registryAt_modify {j : Nat} {f : Registry → Registry} (hi : i < s.registries.length) :
    ({ s with registries := s.registries.modify j f } : Session).registryAt i =
      if j = i then f (s.registryAt i) else s.registryAt i := by
  rw [registryAt, registryAt, List.getD_eq_getElem?_getD, List.getD_eq_getElem?_getD,
    List.getElem?_modify, List.getElem?_eq_getElem hi]
  split <;> rfl

theorem length_after (s : Session) (step : Step) :
    (s.after step).registries.length =
      s.registries.length + (s.madeBy step).toList.length := by
  cases effect s step with
  | makes name r made _ _ _ passes =>
      rw [after_of_ok passes, made, make]
      exact List.length_append
  | changes i c f notMade _ _ _ _ passes =>
      rw [after_of_ok passes, notMade]
      exact List.length_modify ..
  | engine name e notMade _ _ _ _ passes => rw [after_of_ok passes, notMade]; rfl
  | nothing notMade _ _ after _ => rw [after, notMade]; rfl

theorem length_le_after (s : Session) (step : Step) :
    s.registries.length ≤ (s.after step).registries.length := by
  rw [length_after]
  exact Nat.le_add_right ..

theorem length_le_afterAll (steps : List Step) : ∀ s : Session,
    s.registries.length ≤ (s.afterAll steps).registries.length := by
  induction steps with
  | nil => exact fun s => le_rfl
  | cons step rest ih => exact fun s => (length_le_after s step).trans (ih _)

/-- A registry that was made shows what it was made with. -/
theorem find?_made {view : View} (h : s.madeBy step = some (name, view)) :
    ((s.after step).registryAt s.registries.length).find? = view := by
  cases effect s step with
  | makes other r made _ _ _ passes =>
      rw [after_of_ok passes, registryAt_make_new]
      rw [made] at h
      cases h
      rfl
  | changes _ _ _ notMade | engine _ _ notMade | nothing notMade =>
      rw [notMade] at h
      cases h

/-- A step leaves a registry unless it addresses a change to it. -/
theorem registryAt_after (hi : i < s.registries.length) (h : s.changeAt i step = none) :
    (s.after step).registryAt i = s.registryAt i := by
  cases effect s step with
  | makes name r _ _ _ _ passes => rw [after_of_ok passes, registryAt_make r hi]
  | changes j c f _ changed _ _ _ passes =>
      rw [changeAt, changed, Option.bind_some] at h
      rw [after_of_ok passes, registryAt_modify hi, if_neg fun hj => by simp [hj] at h]
  | engine name e _ _ _ _ _ passes => rw [after_of_ok passes]; rfl
  | nothing _ _ _ after _ => rw [after]

theorem find?_after (hi : i < s.registries.length) : ((s.after step).registryAt i).find? =
    (s.changeAt i step).toList.foldl Change.apply (s.registryAt i).find? := by
  cases hchange : s.changeAt i step with
  | none => rw [registryAt_after hi hchange]; rfl
  | some c =>
      rw [changeAt, Option.bind_eq_some_iff] at hchange
      obtain ⟨⟨j, c'⟩, hchange, hplace⟩ := hchange
      cases effect s step with
      | changes k d f _ changed _ shows _ passes =>
          rw [changed] at hchange
          cases hchange
          split at hplace
          · next hj =>
              cases hplace
              rw [after_of_ok passes, registryAt_modify hi, if_pos hj, shows]
              rfl
          · cases hplace
      | makes _ _ _ unchanged | engine _ _ _ unchanged | nothing _ unchanged =>
          rw [unchanged] at hchange
          cases hchange

/-- A registry that was there shows after a run what it showed before, with the
changes that the run addresses to it. -/
theorem find?_afterAll (steps : List Step) : ∀ {s : Session}, i < s.registries.length →
    ((s.afterAll steps).registryAt i).find? =
      (told (changeAt i) s steps).foldl Change.apply (s.registryAt i).find? := by
  induction steps with
  | nil => exact fun _ => rfl
  | cons step rest ih =>
      intro s hi
      rw [afterAll_cons, ih (hi.trans_le (length_le_after s step)), find?_after hi, told,
        List.foldl_append]

theorem registryAt_afterAll (steps : List Step) : ∀ {s : Session}, i < s.registries.length →
    told (changeAt i) s steps = [] → (s.afterAll steps).registryAt i = s.registryAt i := by
  induction steps with
  | nil => exact fun _ _ => rfl
  | cons step rest ih =>
      intro s hi h
      rw [told, List.append_eq_nil_iff, Option.toList_eq_nil_iff] at h
      rw [afterAll_cons, ih (hi.trans_le (length_le_after s step)) h.2, registryAt_after hi h.1]

/-- Every registry that is there after a run and was not before was made by a
step of the run. -/
theorem made_of_lt (steps : List Step) : ∀ {s : Session}, s.registries.length ≤ i →
    i < (s.afterAll steps).registries.length →
    ∃ before step since name view, steps = before ++ step :: since ∧
      (s.afterAll before).madeBy step = some (name, view) ∧
      (s.afterAll before).registries.length = i := by
  induction steps with
  | nil => exact fun hle hlt => absurd hlt (Nat.not_lt.2 hle)
  | cons step rest ih =>
      intro s hle hlt
      -- Either a later step made the registry, or this one did, at the next place.
      by_cases hi : (s.after step).registries.length ≤ i
      · obtain ⟨before, later, since, name, view, rfl, hmade, hlength⟩ := ih hi hlt
        exact ⟨step :: before, later, since, name, view, rfl, hmade, hlength⟩
      · rw [length_after] at hi
        cases hmade : s.madeBy step with
        | none =>
            rw [hmade] at hi
            exact absurd hle hi
        | some made =>
            rw [hmade] at hi
            have hlength : s.registries.length = i := le_antisymm hle (Nat.le_of_lt_succ (not_le.1 hi))
            exact ⟨[], step, rest, made.1, made.2, rfl, hmade, hlength⟩

/-! ## Names -/

/-- Where a step binds a name or leaves all names, a run leaves each name bound
by the last step that binds it. -/
theorem lookup_told {α : Type} {bindings : Session → List (String × α)}
    {brings : Session → Step → Option (String × α)}
    (hstep : ∀ s step, (bindings (s.after step)).lookup name =
      ((brings s step).toList.lookup name).or ((bindings s).lookup name))
    (steps : List Step) : ∀ s : Session, (bindings (s.afterAll steps)).lookup name =
      ((told brings s steps).reverse.lookup name).or ((bindings s).lookup name) := by
  induction steps with
  | nil => exact fun s => rfl
  | cons step rest ih =>
      intro s
      -- One step brings at most one binding, so the order within a step is none.
      have hone : (brings s step).toList.reverse = (brings s step).toList := by
        cases brings s step <;> rfl
      rw [afterAll_cons, ih, hstep, told, List.reverse_append, List.lookup_append, hone,
        Option.or_assoc]

theorem places_after (name : String) (s : Session) (step : Step) :
    (s.after step).places.lookup name =
      ((s.placedBy step).toList.lookup name).or (s.places.lookup name) := by
  cases effect s step with
  | makes other r made _ _ _ passes =>
      rw [after_of_ok passes, placedBy, made, make]
      exact lookup_bound_or ..
  | changes i c f notMade _ _ _ _ passes => rw [after_of_ok passes, placedBy, notMade]; rfl
  | engine name e notMade _ _ _ _ passes => rw [after_of_ok passes, placedBy, notMade]; rfl
  | nothing notMade _ _ after _ => rw [after, placedBy, notMade]; rfl

theorem engines_after (name : String) (s : Session) (step : Step) :
    (s.after step).engines.lookup name =
      ((s.engineBy step).toList.lookup name).or (s.engines.lookup name) := by
  cases effect s step with
  | makes other r _ _ noEngine _ passes => rw [after_of_ok passes, noEngine]; rfl
  | changes i c f _ _ noEngine _ _ passes => rw [after_of_ok passes, noEngine]; rfl
  | engine other e _ _ engine _ _ passes =>
      rw [after_of_ok passes, engine]
      exact lookup_bound_or ..
  | nothing _ _ noEngine after _ => rw [after, noEngine]; rfl

/-! ## What every session keeps to -/

/-- In a registry no name comes twice, and what a name or an engine leads to is
there. -/
structure Sound (s : Session) : Prop where
  distinct : ∀ i, (s.registryAt i).Distinct
  places : ∀ name i, s.places.lookup name = some i → i < s.registries.length
  engines : ∀ name e i, s.engines.lookup name = some e → e.place = some i →
    i < s.registries.length
  own : ∀ name e, s.engines.lookup name = some e → e.options.filters = .standard

theorem sound_empty : empty.Sound where
  distinct _ := Registry.distinct_empty
  places _ _ h := nomatch h
  engines _ _ _ h := nomatch h
  own _ _ h := nomatch h

theorem registryAt_of_le (hi : s.registries.length ≤ i) : s.registryAt i = .empty := by
  rw [registryAt, List.getD_eq_getElem?_getD, List.getElem?_eq_none hi]
  rfl

theorem Sound.distinct_after (h : s.Sound) (step : Step) (i : Nat) :
    ((s.after step).registryAt i).Distinct := by
  cases effect s step with
  | makes name r _ _ _ origin passes =>
      rw [after_of_ok passes]
      -- The places in front are as before, the new one has a registry of a known
      -- origin, and behind it there is nothing.
      rcases lt_trichotomy i s.registries.length with hi | rfl | hi
      · rw [registryAt_make r hi]
        exact h.distinct i
      · rw [registryAt_make_new]
        rcases origin with rfl | rfl | ⟨j, rfl⟩
        · exact Registry.distinct_empty
        · exact Registry.distinct_standard
        · exact h.distinct j
      · rw [registryAt_of_le (by rw [make, List.length_append]; exact hi)]
        exact Registry.distinct_empty
  | changes j c f _ _ _ _ distinct passes =>
      rw [after_of_ok passes]
      by_cases hi : i < s.registries.length
      · rw [registryAt_modify hi]
        split
        · exact distinct _ (h.distinct i)
        · exact h.distinct i
      · rw [registryAt_of_le (by rw [List.length_modify]; exact not_lt.1 hi)]
        exact Registry.distinct_empty
  | engine name e _ _ _ _ _ passes =>
      rw [after_of_ok passes]
      exact h.distinct i
  | nothing _ _ _ after _ =>
      rw [after]
      exact h.distinct i

theorem mem_of_lookup_toList {α : Type} {x : Option (String × α)} {a : α}
    (h : x.toList.lookup name = some a) : x = some (name, a) :=
  Option.mem_toList.1 (lookup_mem h)

theorem Sound.after (h : s.Sound) (step : Step) : (s.after step).Sound := by
  refine ⟨h.distinct_after step, fun name i hplace => ?_, fun name e i hengine hplace => ?_,
    fun name e hengine => ?_⟩
  · rw [places_after, Option.or_eq_some_iff] at hplace
    rcases hplace with hnew | ⟨_, hold⟩
    · obtain ⟨made, hmade, hpair⟩ := Option.map_eq_some_iff.1 (mem_of_lookup_toList hnew)
      cases hpair
      rw [length_after, hmade]
      exact Nat.lt_succ_self _
    · exact (h.places name i hold).trans_le (length_le_after s step)
  · rw [engines_after, Option.or_eq_some_iff] at hengine
    refine lt_of_lt_of_le ?_ (length_le_after s step)
    rcases hengine with hnew | ⟨_, hold⟩
    · have hby := mem_of_lookup_toList hnew
      cases effect s step with
      | engine _ _ _ _ engine _ reached =>
          rw [engine] at hby
          cases hby
          obtain ⟨registry, hregistry⟩ := reached i hplace
          exact h.places registry i (place_eq_ok.1 hregistry)
      | makes _ _ _ _ noEngine | changes _ _ _ _ _ noEngine | nothing _ _ noEngine =>
          rw [noEngine] at hby
          cases hby
    · exact h.engines name e i hold hplace
  · rw [engines_after, Option.or_eq_some_iff] at hengine
    rcases hengine with hnew | ⟨_, hold⟩
    · have hby := mem_of_lookup_toList hnew
      cases effect s step with
      | engine _ _ _ _ engine own =>
          rw [engine] at hby
          cases hby
          exact own
      | makes _ _ _ _ noEngine | changes _ _ _ _ _ noEngine | nothing _ _ noEngine =>
          rw [noEngine] at hby
          cases hby
    · exact h.own name e hold

theorem Sound.afterAll (steps : List Step) : ∀ {s : Session}, s.Sound → (s.afterAll steps).Sound := by
  induction steps with
  | nil => exact fun h => h
  | cons step rest ih => exact fun h => ih (h.after step)

/-! ## Answers -/

/-- What a step tells. -/
def answer (s : Session) (step : Step) : Except Failure Answer := (s.step step).map (·.2)

/-- What is told of the registry of a name that shows `view`. -/
structure Tells (s : Session) (registry : String) (view : View) : Prop where
  /-- The names are in rising order without repetitions, and the questions for
  their number and for a single name agree with them. -/
  names : ∃ names : List String, s.answer (.names registry) = .ok (.names names) ∧
    names.Pairwise (· < ·) ∧ s.answer (.size registry) = .ok (.size names.length) ∧
    ∀ n, (n ∈ names ↔ (view n).isSome = true) ∧
      s.answer (.contains registry (.str n)) = .ok (.truth (decide (n ∈ names))) ∧
      ((∃ a, s.answer (.get registry n) = .ok a) ↔ n ∈ names)
  get : ∀ n, s.answer (.get registry n) = match view n with
    | some f => .ok (.filter f.standardName)
    | none => .error (.unknownFilter n)
  apply : ∀ n v args, s.answer (.apply registry n v args) = match view n with
    | some f => ((f.run v args).mapError (Registry.wrap n)).map .value
    | none => .error (.unknownFilter n)
  /-- Rendering with the registry is rendering with any that shows the same. -/
  render : ∀ r : Registry, r.find? = view → ∀ template args,
    s.answer (.renderWith registry template args) =
      ({ Options.standard with strict := true, filters := r }.render template args).map .value

/-- The answer of a step that tells what comes out of something. -/
theorem map_bind_answer {α : Type} {x : Except Failure α} {tell : α → Answer} :
    (x >>= fun a => .ok (s, tell a)).map (·.2) = x.map tell := by
  cases x <;> rfl

theorem tells_registryAt (h : s.Sound) (hplace : s.places.lookup name = some i) :
    Tells s name (s.registryAt i).find? := by
  have hregistry : s.registry name = .ok (s.registryAt i) := by
    rw [registry, place_eq_ok.2 hplace]
    rfl
  have hget : ∀ n, s.answer (.get name n) = match (s.registryAt i).find? n with
      | some f => .ok (.filter f.standardName)
      | none => .error (.unknownFilter n) := by
    intro n
    rw [answer, Session.step, hregistry, ok_bind, Registry.get]
    cases (s.registryAt i).find? n <;> rfl
  have hcontains : ∀ n, s.answer (.contains name (.str n)) =
      .ok (.truth (decide (n ∈ (s.registryAt i).names))) := by
    intro n
    have hname : hasName (s.registryAt i) (.str n) = .ok ((s.registryAt i).contains n) := rfl
    have hmem : (s.registryAt i).contains n = decide (n ∈ (s.registryAt i).names) := by
      rw [Bool.eq_iff_iff, decide_eq_true_iff, Registry.mem_names]
      rfl
    rw [answer, Session.step, hregistry, ok_bind, hname, hmem]
    rfl
  refine ⟨⟨(s.registryAt i).names, ?_, Registry.names_rising (h.distinct i), ?_,
    fun n => ⟨Registry.mem_names, hcontains n, ?_⟩⟩, hget, fun n v args => ?_,
    fun r hr template args => ?_⟩
  · rw [answer, Session.step, hregistry]
    rfl
  · rw [answer, Session.step, hregistry, ← Registry.size_eq_names]
    rfl
  · rw [hget, Registry.mem_names]
    cases (s.registryAt i).find? n <;> simp
  · rw [answer, Session.step, hregistry, ok_bind, Registry.apply, Registry.get]
    cases (s.registryAt i).find? n with
    | none => rfl
    | some f => exact map_bind_answer
  · have hrender := Options.render_congr (o := { Options.standard with strict := true }) hr
    rw [answer, Session.step, hregistry, ok_bind]
    exact map_bind_answer.trans (congrArg (Except.map Answer.value) (hrender template args).symm)

/-- What an engine sees: what its registry shows, if it has one in the session. -/
def viewOf (s : Session) (e : Engine) : View :=
  match e.place with
  | some i => (s.registryAt i).find?
  | none => e.options.filters.find?

/-- An engine renders like its options with any registry that shows `view`. -/
structure Sees (s : Session) (name : String) (e : Engine) (view : View) : Prop where
  render : ∀ r : Registry, r.find? = view → ∀ template args,
    s.answer (.render name template args) =
      ({ e.options with filters := r }.render template args).map .value
  list : ∀ template,
    s.answer (.listVariables name template) = (e.options.listVariables template).map .inputs

theorem sees_viewOf {e : Engine} (h : s.engines.lookup name = some e) :
    Sees s name e (s.viewOf e) := by
  obtain ⟨o, place⟩ := e
  have hoptions : ∃ r : Registry, s.engineOptions name = .ok { o with filters := r } ∧
      r.find? = s.viewOf ⟨o, place⟩ := by
    rw [engineOptions, h]
    cases place with
    | none => exact ⟨o.filters, rfl, rfl⟩
    | some i => exact ⟨s.registryAt i, rfl, rfl⟩
  obtain ⟨r, hoptions, hr⟩ := hoptions
  refine ⟨fun r' hr' template args => ?_, fun template => ?_⟩
  · rw [answer, Session.step, hoptions, ok_bind, Options.render_congr (hr.trans hr'.symm)]
    exact map_bind_answer
  · rw [answer, Session.step, hoptions, ok_bind]
    exact map_bind_answer

/-! ## The whole -/

/-- The registry at a place was made showing `view`, and since then some changes
were addressed to it. -/
def History (steps : List Step) (i : Nat) (view : View) (changes : List Change) : Prop :=
  ∃ before step since name, steps = before ++ step :: since ∧
    (empty.afterAll before).madeBy step = some (name, view) ∧
    (empty.afterAll before).registries.length = i ∧
    told (changeAt i) ((empty.afterAll before).after step) since = changes

/-- What a session shows, told by the steps that led to it. -/
structure ToldBy (s : Session) (steps : List Step) : Prop where
  /-- Every registry was made by one of the steps. -/
  made : ∀ i < s.registries.length, ∃ view changes, History steps i view changes
  /-- It shows what it showed then with the changes since. -/
  shows : ∀ i view changes, History steps i view changes →
    i < s.registries.length ∧ (s.registryAt i).find? = changes.foldl Change.apply view
  /-- A name stands for the registry that was made under it last. -/
  places : ∀ name, s.places.lookup name = (told placedBy empty steps).reverse.lookup name
  engines : ∀ name, s.engines.lookup name = (told engineBy empty steps).reverse.lookup name
  tells : ∀ name i, s.places.lookup name = some i →
    i < s.registries.length ∧ Tells s name (s.registryAt i).find?
  /-- An engine sees what its registry shows now, or the catalog if it has none. -/
  sees : ∀ name e, s.engines.lookup name = some e → Sees s name e (s.viewOf e) ∧
    (∀ i, e.place = some i → i < s.registries.length) ∧
    (e.place = none → s.viewOf e = Standard.filter?)
  /-- What other steps do does not change what an engine tells. -/
  steady : ∀ name e more, s.engines.lookup name = some e →
    (∀ e', (name, e') ∉ told engineBy s more) →
    (∀ i, e.place = some i → told (changeAt i) s more = []) →
    (∀ template args, (s.afterAll more).answer (.render name template args) =
      s.answer (.render name template args)) ∧
    ∀ template, (s.afterAll more).answer (.listVariables name template) =
      s.answer (.listVariables name template)
  /-- The steps that bring something are those that come to pass without asking. -/
  brings : ∀ step, (∃ next, s.step step = .ok (next, .done)) ↔
    (s.madeBy step).isSome = true ∨ (s.changeBy step).isSome = true ∨
      (s.engineBy step).isSome = true
  /-- All others leave the session as it was, those that fail above all. -/
  leaves : ∀ step, (∀ next, s.step step ≠ .ok (next, .done)) → s.after step = s
  refuses : ∀ registry name, s.answer (.register registry name .noFilter) =
    .error (.notCallable name)

theorem shows_of_history {steps : List Step} {view : View} {changes : List Change}
    (h : History steps i view changes) : i < (empty.afterAll steps).registries.length ∧
      ((empty.afterAll steps).registryAt i).find? = changes.foldl Change.apply view := by
  obtain ⟨before, step, since, name, rfl, hmade, rfl, rfl⟩ := h
  have hlength : (empty.afterAll before).registries.length <
      ((empty.afterAll before).after step).registries.length := by
    rw [length_after, hmade]
    exact Nat.lt_succ_self _
  rw [afterAll_append, afterAll_cons]
  exact ⟨hlength.trans_le (length_le_afterAll since _),
    by rw [find?_afterAll since hlength, find?_made hmade]⟩

theorem history_of_lt {steps : List Step} (hi : i < (empty.afterAll steps).registries.length) :
    ∃ view changes, History steps i view changes := by
  obtain ⟨before, step, since, name, view, hsteps, hmade, hlength⟩ :=
    made_of_lt steps (s := empty) (Nat.zero_le i) hi
  exact ⟨view, _, before, step, since, name, hsteps, hmade, hlength, rfl⟩

/-- An engine that is not made anew goes on seeing the registry at its place. -/
theorem viewOf_afterAll {e : Engine} {more : List Step} (hs : s.Sound)
    (h : s.engines.lookup name = some e)
    (hsame : ∀ i, e.place = some i → told (changeAt i) s more = []) :
    (s.afterAll more).viewOf e = s.viewOf e := by
  rw [viewOf, viewOf]
  cases hplace : e.place with
  | none => rfl
  | some i =>
      dsimp only
      rw [registryAt_afterAll more (hs.engines name e i h hplace) (hsame i hplace)]

theorem done_iff (s : Session) (step : Step) : (∃ next, s.step step = .ok (next, .done)) ↔
    (s.madeBy step).isSome = true ∨ (s.changeBy step).isSome = true ∨
      (s.engineBy step).isSome = true := by
  cases effect s step with
  | makes name r made _ _ _ passes => simp [made, passes]
  | changes i c f _ changed _ _ _ passes => simp [changed, passes]
  | engine name e _ _ engine _ _ passes => simp [engine, passes]
  | nothing notMade unchanged noEngine _ asks => simp [notMade, unchanged, noEngine, asks]

theorem after_not_done (h : ∀ next, s.step step ≠ .ok (next, .done)) : s.after step = s := by
  cases effect s step with
  | makes _ _ _ _ _ _ passes | changes _ _ _ _ _ _ _ _ passes | engine _ _ _ _ _ _ _ passes =>
      exact absurd passes (h _)
  | nothing _ _ _ after _ => exact after

/-- After any steps a session shows what the steps tell: each registry what it
was made with and the changes since, each name what was made under it last, and
each engine what its registry shows. Steps that fail or only ask leave it. -/
theorem toldBy_afterAll (steps : List Step) : ToldBy (empty.afterAll steps) steps := by
  have hsound : (empty.afterAll steps).Sound := Sound.afterAll steps sound_empty
  refine ⟨fun i => history_of_lt, fun i view changes => shows_of_history, fun name => ?_,
    fun name => ?_, fun name i hplace => ?_, fun name e hengine => ?_,
    fun name e more hengine hnever hsame => ?_, done_iff _, fun step => after_not_done,
    fun registry name => rfl⟩
  · exact (lookup_told (places_after name) steps empty).trans Option.or_none
  · exact (lookup_told (engines_after name) steps empty).trans Option.or_none
  · exact ⟨hsound.places name i hplace, tells_registryAt hsound hplace⟩
  · refine ⟨sees_viewOf hengine, fun i => hsound.engines name e i hengine, fun hplace => ?_⟩
    rw [viewOf, hplace]
    dsimp only
    rw [hsound.own name e hengine, Registry.find?_standard]
  · have hnone : (told engineBy (empty.afterAll steps) more).reverse.lookup name = none :=
      Option.eq_none_iff_forall_ne_some.2 fun e' hlookup =>
        hnever e' (List.mem_reverse.1 (lookup_mem hlookup))
    have hlater : ((empty.afterAll steps).afterAll more).engines.lookup name = some e := by
      rw [lookup_told (engines_after name) more, hnone, Option.none_or, hengine]
    have hsees := sees_viewOf hengine
    have hsees' := sees_viewOf hlater
    -- Both answers are those of one registry that shows what the engine sees.
    rw [viewOf_afterAll hsound hengine hsame] at hsees'
    refine ⟨fun template args => ?_, fun template => ?_⟩
    · obtain ⟨r, hr⟩ : ∃ r : Registry, r.find? = (empty.afterAll steps).viewOf e := by
        rw [viewOf]
        cases e.place with
        | none => exact ⟨_, rfl⟩
        | some i => exact ⟨_, rfl⟩
      rw [hsees.render r hr, hsees'.render r hr]
    · rw [hsees.list, hsees'.list]

end Stencil.Session
