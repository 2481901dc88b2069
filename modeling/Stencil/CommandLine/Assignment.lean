import Stencil.Text.Trim
import Stencil.Value.Equality
import Stencil.Value.Literal

/-!
# Assignments

Arguments given one by one: a name, an equals sign and a literal.
-/

namespace Stencil.Assignment

open Stencil.Text

/-- The name and the value of an assignment. The name ends at the first equals sign and is not
empty. -/
def read (s : String) : Except Failure (String × Value) :=
  let name := s.toList.takeWhile (· != '=')
  match s.toList.drop name.length with
  | _ :: literal =>
      if name.isEmpty then .error (.invalidAssignment s)
      else do .ok (String.ofList (trim name), ← Literal.read (trim literal))
  | [] => .error (.invalidAssignment s)

/-- The arguments of several assignments, later ones replacing earlier ones. -/
def readAll (assignments : List String) : Except Failure Arguments :=
  (assignments.mapM read).map Arguments.ofPairs

end Stencil.Assignment
