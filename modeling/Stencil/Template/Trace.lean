import Stencil.Failure
import Stencil.Value.Basic

/-!
# Runs and what they leave behind

Rendering notes what it does: which conditions it evaluated, which defaults and filters it used. A
run is its notes in order and its outcome, and the notes are there whether the outcome is a value or
a failure.
-/

namespace Stencil

/-- An operand, or two with an operator between them. A leading exclamation mark of the left operand
is kept apart. -/
structure Condition where
  left : String
  negated : Bool
  operator : Option String
  right : Option String
deriving DecidableEq, Repr

/-- Something that a run notes. -/
inductive Event
  /-- A condition was evaluated. -/
  | decided (condition : Condition) (result : Bool)
  /-- A variable was not given and its default was used. -/
  | usedDefault (name : String) (value : Value)
  /-- A variable was not given and has no default. -/
  | usedNull (name : String)
  /-- A filter is about to be applied to a variable. -/
  | filtering (filter name : String) (args : List Value)

/-- The notes of a run and its outcome. -/
structure Run (α : Type) where
  events : List Event
  result : Except Failure α

namespace Run

def pure {α : Type} (a : α) : Run α := ⟨[], .ok a⟩

/-- One run and then another that depends on what the first gave. -/
def bind {α β : Type} (r : Run α) (f : α → Run β) : Run β :=
  match r.result with
  | .ok a => ⟨r.events ++ (f a).events, (f a).result⟩
  | .error e => ⟨r.events, .error e⟩

instance : Monad Run where
  pure := Run.pure
  bind := Run.bind

def fail {α : Type} (f : Failure) : Run α := ⟨[], .error f⟩

def ofExcept {α : Type} (r : Except Failure α) : Run α := ⟨[], r⟩

/-- The run that only notes something. -/
def note (e : Event) : Run Unit := ⟨[e], .ok ()⟩

end Run

end Stencil
