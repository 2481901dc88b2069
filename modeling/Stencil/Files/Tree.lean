import Stencil.Failure
import Stencil.Files.Path
import Stencil.Text.Utf8

/-!
# File trees

The files below the working directory by their paths. A directory exists if it is listed or if
something is listed below it. To follow a path all directories on the way have to exist, also those
that two points lead out of again.
-/

namespace Stencil

/-- Files and directories by their paths. A file has its bytes, a directory has none. -/
structure FileTree where
  entries : List (Path × Option Text.Bytes)

namespace FileTree

open Stencil.Text

/-! ## Looking -/

def file? (t : FileTree) (p : Path) : Option Bytes := (t.entries.lookup p).bind id

def isFile (t : FileTree) (p : Path) : Bool := (t.file? p).isSome

/-- Whether there is a directory at a path. The working directory and all above it are there. -/
def isDirectory (t : FileTree) (p : Path) : Bool :=
  p.all (· == "..") || p == [Path.top] ||
    t.entries.any fun e => (e.1 == p && e.2.isNone) || e.1.isBelow p

/-- Why a path does not lead on from a place. -/
def blocked (t : FileTree) (p : Path) : Failure := if t.isFile p then .notDirectory else .noPath

/-- The path that some names lead to. -/
def walkFrom (t : FileTree) (here : Path) : List String → Except Failure Path
  | [] => .ok here
  | name :: rest =>
      if t.isDirectory here then walkFrom t (here.step name) rest else .error (t.blocked here)

/-- The path that a path written in the directory `here` leads to, which need not exist itself. -/
def walkIn (t : FileTree) (here : Path) (path : String) : Except Failure Path :=
  t.walkFrom (Path.start here path) (Path.names path)

/-- The path that a path written in the working directory leads to. -/
def walk (t : FileTree) (path : String) : Except Failure Path := t.walkIn [] path

/-- What a written path leads to: a file with its bytes or a directory. -/
def open? (t : FileTree) (path : String) : Option (Option Bytes) :=
  match t.walk path with
  | .error _ => none
  | .ok p =>
      match t.file? p with
      | some bs => some (some bs)
      | none => if t.isDirectory p then some none else none

def bytesAt? (t : FileTree) (path : String) : Option Bytes := (t.open? path).bind id

/-- The paths of the files strictly below a directory, from there. -/
def filesBelow (t : FileTree) (base : Path) : List Path :=
  t.entries.filterMap fun e =>
    if e.2.isSome && e.1.isBelow base then some (e.1.drop base.length) else none

/-! ## Reading text -/

/-- Text with a line feed for every sort of line end. -/
def withLineFeeds : List Char → List Char
  | '\r' :: '\n' :: cs => '\n' :: withLineFeeds cs
  | '\r' :: cs => '\n' :: withLineFeeds cs
  | c :: cs => c :: withLineFeeds cs
  | [] => []

def textOf (bs : Bytes) : Except Failure (List Char) :=
  match decode? bs with
  | some cs => .ok (withLineFeeds cs)
  | none => .error .notUtf8

/-! ## Writing -/

/-- The entries with a file at a path. -/
def put (p : Path) (bs : Bytes) : List (Path × Option Bytes) → List (Path × Option Bytes)
  | [] => [(p, some bs)]
  | e :: rest => if e.1 = p then (p, some bs) :: rest else e :: put p bs rest

/-- The tree with a text written to a path. The directory has to exist. -/
def write (t : FileTree) (path : String) (cs : List Char) : Except Failure FileTree := do
  if Path.isImpossible path then .error .badValue
  else
    let p ← t.walk path
    if t.isDirectory p then .error .isDirectory else .ok ⟨put p (utf8 cs) t.entries⟩

end FileTree

end Stencil
