import Stencil.Failure
import Stencil.Value.Basic

/-!
# Filters and registries

A filter turns a value and further arguments into a value, or refuses. A registry holds filters by
name. Applying a filter by name turns a refusal into a failure of that filter; failures of other
sorts are passed on as they are.
-/

namespace Stencil

/-- A filter. One of the standard filters knows its name in the standard registry. -/
structure Filter where
  standardName : Option String
  run : Value → List Value → Except Failure Value

/-- Filters by name, in the order in which the names came first. -/
structure Registry where
  entries : List (String × Filter)

namespace Registry

def empty : Registry := ⟨[]⟩

def find? (r : Registry) (name : String) : Option Filter := r.entries.lookup name

def contains (r : Registry) (name : String) : Bool := (r.find? name).isSome

def get (r : Registry) (name : String) : Except Failure Filter :=
  match r.find? name with
  | some f => .ok f
  | none => .error (.unknownFilter name)

/-- The entries with `f` under `name`. -/
def put (name : String) (f : Filter) : List (String × Filter) → List (String × Filter)
  | [] => [(name, f)]
  | (n, g) :: rest => if n = name then (n, f) :: rest else (n, g) :: put name f rest

def register (r : Registry) (name : String) (f : Filter) : Registry := ⟨put name f r.entries⟩

def unregister (r : Registry) (name : String) : Registry :=
  ⟨r.entries.filter fun e => e.1 != name⟩

/-- The names in rising order. -/
def names (r : Registry) : List String := (r.entries.map (·.1)).mergeSort fun a b => !(b < a)

def size (r : Registry) : Nat := r.entries.length

/-- A refusal of a filter, as the failure of that filter. -/
def wrap (name : String) (f : Failure) : Failure :=
  if f.isRefusal then
    .filterFailed name (match f with
      | .undecodable _ | .invalidPath _ => f.message?
      | _ => none)
  else f

/-- Applies the filter of a name. -/
def apply (r : Registry) (name : String) (v : Value) (args : List Value) :
    Except Failure Value := do
  let f ← r.get name
  (f.run v args).mapError (wrap name)

end Registry

end Stencil
