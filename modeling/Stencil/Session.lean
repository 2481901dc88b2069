import Stencil.Filters.Standard
import Stencil.Template.Settings

/-!
# Sessions

A session works with registries and engines under names of its choice. Every registry that is made
gets a place of its own, which is never given to another; a name leads to a place, and so does an
engine. So two engines on one registry see the same filters, a copy goes its own way from then on,
and an engine keeps its registry when the name of the registry is given to a new one.

A step that fails leaves the session as it was.
-/

namespace Stencil

/-- An engine: its options, and the place of its registry if that is not one of its own. -/
structure Engine where
  options : Options
  place : Option Nat

/-- The registries that were made, each at its place, and what the names stand for. -/
structure Session where
  registries : List Registry
  places : List (String × Nat)
  engines : List (String × Engine)

namespace Session

/-! ## What a step asks for -/

/-- What is put into a registry. -/
inductive Entry
  /-- The standard filter of a name. -/
  | standard (name : String)
  /-- A filter that always fails. -/
  | failing (f : Failure)
  /-- Something that is no filter. -/
  | noFilter
deriving DecidableEq, Repr

inductive Step
  /-- Makes a registry of the standard filters, or an empty one. -/
  | new (registry : String) (isEmpty : Bool)
  /-- Makes a registry of the filters that another one has. -/
  | copy (registry target : String)
  | register (registry name : String) (entry : Entry)
  | unregister (registry name : String)
  | names (registry : String)
  | size (registry : String)
  | contains (registry : String) (name : Value)
  /-- Asks which standard filter is under a name. -/
  | get (registry name : String)
  | apply (registry name : String) (value : Value) (arguments : List Value)
  /-- Makes an engine with some options, on a registry or on one of its own. -/
  | engine (name : String) (registry : Option String) (options : List (Value × Value))
  | render (engine : String) (template : Value) (arguments : Arguments)
  /-- Renders with the filters of a registry and refuses missing variables. -/
  | renderWith (registry : String) (template : Value) (arguments : Arguments)
  | listVariables (engine template : String)

/-- What a step tells. -/
inductive Answer
  | done
  | names (names : List String)
  | size (n : Nat)
  | truth (b : Bool)
  /-- A filter, by its standard name if it has one. -/
  | filter (standardName : Option String)
  | value (v : Value)
  | inputs (i : Inputs)

/-! ## Looking -/

def empty : Session := ⟨[], [], []⟩

def place (s : Session) (registry : String) : Except Failure Nat :=
  match s.places.lookup registry with
  | some i => .ok i
  | none => .error .noKey

def registryAt (s : Session) (i : Nat) : Registry := s.registries.getD i .empty

def registry (s : Session) (name : String) : Except Failure Registry :=
  (s.place name).map s.registryAt

/-- The options of an engine, with the filters that its registry has now. -/
def engineOptions (s : Session) (name : String) : Except Failure Options :=
  match s.engines.lookup name with
  | none => .error .noKey
  | some ⟨options, none⟩ => .ok options
  | some ⟨options, some i⟩ => .ok { options with filters := s.registryAt i }

/-! ## Changing -/

/-- The bindings with `a` under `name`. -/
def bound {α : Type} (name : String) (a : α) : List (String × α) → List (String × α)
  | [] => [(name, a)]
  | (n, b) :: rest => if n = name then (n, a) :: rest else (n, b) :: bound name a rest

/-- The session with a new registry, to which the name leads from now on. -/
def make (s : Session) (name : String) (r : Registry) : Session :=
  { s with registries := s.registries ++ [r], places := bound name s.registries.length s.places }

/-- The session with the registry of a name changed. -/
def change (s : Session) (name : String) (f : Registry → Registry) : Except Failure Session := do
  let i ← s.place name
  .ok { s with registries := s.registries.modify i f }

/-- The session with an engine. -/
def makeEngine (s : Session) (name : String) (registry : Option String)
    (options : List (Value × Value)) : Except Failure Session := do
  let options ← Options.ofEntries options
  let place ← registry.mapM s.place
  .ok { s with engines := bound name ⟨options, place⟩ s.engines }

/-- The filter that an entry of a name stands for. -/
def filterOf (name : String) : Entry → Except Failure Filter
  | .standard standardName =>
      match Standard.filter? standardName with
      | some f => .ok f
      | none => .error .noKey
  | .failing f => .ok ⟨none, fun _ _ => .error f⟩
  | .noFilter => .error (.notCallable name)

/-- Whether a value is a name of a filter. What can never be a key cannot be asked for. -/
def hasName (r : Registry) (name : Value) : Except Failure Bool :=
  if name.isFixed then
    .ok (match name with
      | .str s => r.contains s
      | _ => false)
  else .error .wrongType

/-! ## Steps -/

def step (s : Session) : Step → Except Failure (Session × Answer)
  | .new name isEmpty => .ok (s.make name (if isEmpty then .empty else .standard), .done)
  | .copy name target => do .ok (s.make target (← s.registry name), .done)
  | .register name filter entry => do
      let f ← filterOf filter entry
      .ok (← s.change name (·.register filter f), .done)
  | .unregister name filter => do .ok (← s.change name (·.unregister filter), .done)
  | .names name => do .ok (s, .names (← s.registry name).names)
  | .size name => do .ok (s, .size (← s.registry name).size)
  | .contains name filter => do .ok (s, .truth (← hasName (← s.registry name) filter))
  | .get name filter => do .ok (s, .filter (← (← s.registry name).get filter).standardName)
  | .apply name filter v args => do .ok (s, .value (← (← s.registry name).apply filter v args))
  | .engine name registry options => do .ok (← s.makeEngine name registry options, .done)
  | .render name template args => do
      .ok (s, .value (← (← s.engineOptions name).render template args))
  | .renderWith name template args => do
      let o : Options := { Options.standard with strict := true, filters := ← s.registry name }
      .ok (s, .value (← o.render template args))
  | .listVariables name template => do
      .ok (s, .inputs (← (← s.engineOptions name).listVariables template))

def after (s : Session) (step : Step) : Session :=
  match s.step step with
  | .ok (next, _) => next
  | .error _ => s

/-- What the steps of a session tell, in their order. -/
def run (s : Session) : List Step → List (Except Failure Answer)
  | [] => []
  | step :: rest => (s.step step).map (·.2) :: run (s.after step) rest

end Session

end Stencil
