import Stencil.Files.Tree
import Stencil.Json.Reader
import Stencil.Text.Case
import Stencil.Value.Display
import Stencil.Yaml.Meaning

/-!
# Files of arguments

A mapping of names to values, in YAML if the ending of the file says so and else in JSON. A file
that holds null or nothing gives no arguments. Keys that are no texts become the texts that show
them.
-/

namespace Stencil.ArgumentFile

/-- Whether the ending of a path stands for YAML. -/
def isYaml (path : String) : Bool :=
  [".yml", ".yaml"].contains (String.ofList (Text.lower (Path.ending path).toList))

/-- The entries of a mapping with texts as keys. -/
def named : List (Value × Value) → Except Failure (List (String × Value))
  | [] => .ok []
  | (k, v) :: rest =>
      match k.plain? with
      | some name => do .ok ((name, v) :: (← named rest))
      | none => .error .badValue

def load (t : FileTree) (path : String) : Except Failure Arguments :=
  match t.open? path with
  | none => .error (.noArguments path)
  | some none => .error .isDirectory
  | some (some bs) => do
      let cs ← FileTree.textOf bs
      match ← if isYaml path then Yaml.read cs else Json.read cs with
      | .null => .ok []
      | .mapping entries => (named entries).map Arguments.ofPairs
      | _ => .error (.notMapping path)

end Stencil.ArgumentFile
