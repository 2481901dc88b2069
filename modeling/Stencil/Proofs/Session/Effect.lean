import Stencil.Proofs.Chaining
import Stencil.Proofs.Session.Registries

/-!
# What a step does to a session

A step that comes to pass makes a registry, changes one or makes an engine, or
it only asks. What it brings is told from the step and the session that it
meets, and `Effect` lists all that it can do. Nothing else about a session needs
the steps taken apart.
-/

namespace Stencil.Session

/-! ## What a step brings -/

/-- What a registry shows: the filter under each name. -/
abbrev View := String → Option Filter

/-- A change of a registry. -/
inductive Change
  | put (name : String) (f : Filter)
  | drop (name : String)

def Change.apply (view : View) : Change → View
  | .put name f => Function.update view name (some f)
  | .drop name => Function.update view name none

/-- The name under which a step makes a registry, and what that shows at first:
the catalog, nothing, or what the registry shows that it is a copy of. -/
def madeBy (s : Session) : Step → Option (String × View)
  | .new name isEmpty => some (name, if isEmpty then fun _ => none else Standard.filter?)
  | .copy name target =>
      match s.place name with
      | .ok i => some (target, (s.registryAt i).find?)
      | .error _ => none
  | _ => none

/-- The change that a step makes, with the place of the registry that it is
addressed to. A step that fails makes none. -/
def changeBy (s : Session) : Step → Option (Nat × Change)
  | .register registry name entry =>
      match s.place registry, filterOf name entry with
      | .ok i, .ok f => some (i, .put name f)
      | _, _ => none
  | .unregister registry name =>
      match s.place registry with
      | .ok i => some (i, .drop name)
      | .error _ => none
  | _ => none

/-- The engine that a step makes, with its name. -/
def engineBy (s : Session) : Step → Option (String × Engine)
  | .engine name registry options =>
      match Options.ofEntries options, registry.mapM s.place with
      | .ok o, .ok place => some (name, ⟨o, place⟩)
      | _, _ => none
  | _ => none

/-- All that a step can do to a session. -/
inductive Effect (s : Session) (step : Step) : Prop
  | makes (name : String) (r : Registry) (made : s.madeBy step = some (name, r.find?))
      (unchanged : s.changeBy step = none) (noEngine : s.engineBy step = none)
      (origin : r = .empty ∨ r = .standard ∨ ∃ i, r = s.registryAt i)
      (passes : s.step step = .ok (s.make name r, .done))
  | changes (i : Nat) (c : Change) (f : Registry → Registry) (notMade : s.madeBy step = none)
      (changed : s.changeBy step = some (i, c)) (noEngine : s.engineBy step = none)
      (shows : ∀ r, (f r).find? = c.apply r.find?)
      (distinct : ∀ r : Registry, r.Distinct → (f r).Distinct)
      (passes : s.step step = .ok ({ s with registries := s.registries.modify i f }, .done))
  | engine (name : String) (e : Engine) (notMade : s.madeBy step = none)
      (unchanged : s.changeBy step = none) (engine : s.engineBy step = some (name, e))
      (own : e.options.filters = .standard)
      (reached : ∀ i, e.place = some i → ∃ registry, s.place registry = .ok i)
      (passes : s.step step = .ok ({ s with engines := bound name e s.engines }, .done))
  | nothing (notMade : s.madeBy step = none) (unchanged : s.changeBy step = none)
      (noEngine : s.engineBy step = none) (after : s.after step = s)
      (asks : ∀ next, s.step step ≠ .ok (next, .done))

/-! ## Every step has one effect -/

variable {s : Session} {step : Step} {i : Nat} {name : String}

theorem place_eq_ok : s.place name = .ok i ↔ s.places.lookup name = some i := by
  rw [place]
  cases s.places.lookup name with
  | none => exact ⟨nofun, nofun⟩
  | some j => rw [Except.ok.injEq, Option.some.injEq]

theorem after_of_ok {next : Session} {answer : Answer} (h : s.step step = .ok (next, answer)) :
    s.after step = next := by
  rw [after, h]

theorem after_of_error {f : Failure} (h : s.step step = .error f) : s.after step = s := by
  rw [after, h]

/-- A step that fails has no effect. -/
theorem Effect.failing {f : Failure} (notMade : s.madeBy step = none)
    (unchanged : s.changeBy step = none) (noEngine : s.engineBy step = none)
    (h : s.step step = .error f) : Effect s step :=
  .nothing notMade unchanged noEngine (after_of_error h) fun next hnext => by
    rw [h] at hnext
    cases hnext

/-- A step that only asks has no effect. -/
theorem Effect.asking (notMade : s.madeBy step = none) (unchanged : s.changeBy step = none)
    (noEngine : s.engineBy step = none)
    (h : ∀ next answer, s.step step = .ok (next, answer) → next = s ∧ answer ≠ .done) :
    Effect s step := by
  cases hstep : s.step step with
  | error f => exact .failing notMade unchanged noEngine hstep
  | ok out =>
      obtain ⟨next, answer⟩ := out
      refine .nothing notMade unchanged noEngine ?_ fun other hdone => (h other _ hdone).2 rfl
      rw [after_of_ok hstep, (h next answer hstep).1]

theorem ofEntries_filters {entries : List (Value × Value)} {o : Options}
    (h : Options.ofEntries entries = .ok o) : o.filters = .standard := by
  rw [Options.ofEntries] at h
  obtain ⟨args, _, h⟩ := bind_eq_ok.1 h
  dsimp only at h
  split at h
  · split at h
    all_goals
      obtain ⟨patterns, _, h⟩ := bind_eq_ok.1 h
      obtain ⟨maxDepth, _, h⟩ := bind_eq_ok.1 h
      cases h
      rfl
  · cases h

theorem effect (s : Session) (step : Step) : Effect s step := by
  cases step with
  | new name isEmpty =>
      cases isEmpty with
      | true => exact .makes name .empty rfl rfl rfl (.inl rfl) rfl
      | false =>
          refine .makes name .standard ?_ rfl rfl (.inr (.inl rfl)) rfl
          rw [Registry.find?_standard]
          rfl
  | copy name target =>
      cases hplace : s.place name with
      | error f =>
          refine .failing (f := f) ?_ rfl rfl ?_
          · rw [madeBy, hplace]
          · rw [Session.step, registry, hplace]
            rfl
      | ok i =>
          refine .makes target (s.registryAt i) ?_ rfl rfl (.inr (.inr ⟨i, rfl⟩)) ?_
          · rw [madeBy, hplace]
          · rw [Session.step, registry, hplace]
            rfl
  | register registry filter entry =>
      cases hfilter : filterOf filter entry with
      | error f =>
          refine .failing (f := f) rfl ?_ rfl ?_
          · rw [changeBy, hfilter]
            split <;> simp_all
          · rw [Session.step, hfilter]
            rfl
      | ok g =>
          cases hplace : s.place registry with
          | error f =>
              refine .failing (f := f) rfl ?_ rfl ?_
              · rw [changeBy, hplace]
              · rw [Session.step, hfilter, ok_bind, change, hplace]
                rfl
          | ok i =>
              refine .changes i (.put filter g) (·.register filter g) rfl ?_ rfl
                (fun r => Registry.find?_register) (fun r hr => hr.register) ?_
              · rw [changeBy, hplace, hfilter]
              · rw [Session.step, hfilter, ok_bind, change, hplace]
                rfl
  | unregister registry filter =>
      cases hplace : s.place registry with
      | error f =>
          refine .failing (f := f) rfl ?_ rfl ?_
          · rw [changeBy, hplace]
          · rw [Session.step, change, hplace]
            rfl
      | ok i =>
          refine .changes i (.drop filter) (·.unregister filter) rfl ?_ rfl
            (fun r => Registry.find?_unregister) (fun r hr => hr.unregister) ?_
          · rw [changeBy, hplace]
          · rw [Session.step, change, hplace]
            rfl
  | engine name registry options =>
      cases hoptions : Options.ofEntries options with
      | error f =>
          refine .failing (f := f) rfl rfl ?_ ?_
          · rw [engineBy, hoptions]
          · rw [Session.step, makeEngine, hoptions]
            rfl
      | ok o =>
          cases hplace : registry.mapM s.place with
          | error f =>
              refine .failing (f := f) rfl rfl ?_ ?_
              · rw [engineBy, hoptions, hplace]
              · rw [Session.step, makeEngine, hoptions, ok_bind, hplace]
                rfl
          | ok place =>
              refine .engine name ⟨o, place⟩ rfl rfl ?_ (ofEntries_filters hoptions) ?_ ?_
              · rw [engineBy, hoptions, hplace]
              · rintro i rfl
                cases registry with
                | none => cases hplace
                | some r =>
                    rw [Option.mapM_some] at hplace
                    obtain ⟨j, hj, hsome⟩ := map_eq_ok.1 hplace
                    cases hsome
                    exact ⟨r, hj⟩
              · rw [Session.step, makeEngine, hoptions, ok_bind, hplace]
                rfl
  | names | size =>
      refine .asking rfl rfl rfl fun next answer h => ?_
      obtain ⟨_, _, h⟩ := bind_eq_ok.1 h
      cases h
      exact ⟨rfl, Answer.noConfusion⟩
  | contains | get | apply | render | renderWith | listVariables =>
      refine .asking rfl rfl rfl fun next answer h => ?_
      obtain ⟨_, _, h⟩ := bind_eq_ok.1 h
      obtain ⟨_, _, h⟩ := bind_eq_ok.1 h
      cases h
      exact ⟨rfl, Answer.noConfusion⟩

end Stencil.Session
