import Stencil.Text.Trim

/-!
# Paths

A path is a list of names, read from the working directory or, if its first name is a slash, from
the top of all directories. Empty names and single points in a written path mean nothing. Two points
lead to the directory above; what lies above the working directory is only known by such points.
-/

namespace Stencil

/-- A path by its names. -/
abbrev Path := List String

namespace Path

open Stencil.Text

/-- The name of the top of all directories. -/
def top : String := "/"

/-- The names in a written path that mean something. -/
def names (path : String) : List String :=
  ((splitOn '/' path.toList).map String.ofList).filter fun name => name != "" && name != "."

def isAbsolute (path : String) : Bool := path.toList.head? == some '/'

/-- Where the reading of a written path begins, where `base` is the path it stands behind. -/
def start (base : Path) (path : String) : Path := if isAbsolute path then [top] else base

def above (p : Path) : Path :=
  if p = [top] then p else if p.all (· == "..") then p ++ [".."] else p.dropLast

def step (p : Path) (name : String) : Path := if name = ".." then above p else p ++ [name]

/-- A written path behind a base, with its points resolved by their names alone. -/
def resolve (base : Path) (path : String) : Path := (names path).foldl step (start base path)

/-- Whether a path leads strictly below another. -/
def isBelow (p base : Path) : Bool := base.isPrefixOf p && base.length < p.length

/-- Whether a written path holds a character that no path can hold. -/
def isImpossible (path : String) : Bool := path.toList.contains '\x00'

def lastName (path : String) : String := (names path).getLast?.getD ""

/-- The ending of the last name: its last point and what is behind it, if something is on both
sides. -/
def ending (path : String) : String :=
  let cs := (lastName path).toList
  let after := cs.reverse.takeWhile (· != '.')
  if after.isEmpty ∨ cs.length ≤ after.length + 1 then ""
  else String.ofList ('.' :: after.reverse)

/-- A path as it is written. -/
def toText (p : Path) : String := "/".intercalate p

end Path

end Stencil
