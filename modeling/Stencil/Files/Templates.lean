import Stencil.Files.Tree

/-!
# Stored templates

The templates of a directory are the files below it. A template is asked for by its path from there;
no name leads out of the directory. Paths are read in the working directory, whose own path is given
where it is known: then a path from the top of all directories can lead to the same place as one
from there.
-/

namespace Stencil.Templates

def loadIn (t : FileTree) (here : Path) (directory name : String) : Except Failure String :=
  if Path.isImpossible directory || Path.isImpossible name then .error .badValue
  else
    let root := Path.resolve here directory
    let path := Path.resolve root name
    match t.file? path with
    | some bs =>
        if path.isBelow root then (FileTree.textOf bs).map String.ofList
        else .error (.noTemplate name)
    | none => .error (.noTemplate name)

/-- The paths of the templates of a directory in rising order; none if there is no such
directory. -/
def listIn (t : FileTree) (here : Path) (directory : String) : List String :=
  match t.walkIn here directory with
  | .error _ => []
  | .ok base => ((t.filesBelow base).map Path.toText).mergeSort fun a b => !(b < a)

def load (t : FileTree) (directory name : String) : Except Failure String :=
  loadIn t [] directory name

def list (t : FileTree) (directory : String) : List String := listIn t [] directory

end Stencil.Templates
