import Stencil.CommandLine.Run

/-!
# The program

The thin layer between a command and the machine: it looks at the files that a command names, has
the command carried out on them, and writes what is left behind. `Command.run` decides what that is.
-/

namespace Stencil

def usage : String :=
  "usage: stencil [-h] [-a ARGS] [-s NAME=VALUE] [--strict] [--trim-blocks] [-l] [-o OUTPUT] [-v] "
    ++ "template"

/-- The places on the way along a written path: how each is written, and its path. -/
def placesAlong (path : String) : List (String × Path) :=
  let names := Path.names path
  let start := if Path.isAbsolute path then "/" else ""
  (List.range names.length).map fun n =>
    let part := start ++ Path.toText (names.take (n + 1))
    (part, Path.resolve [] part)

/-- The written paths that a command reads or writes. -/
def Command.paths (c : Command) : List String :=
  c.template :: (c.argumentFile.toList ++ c.output.toList)

/-- The bytes of a file that was opened; none if it is a directory, which cannot be read. -/
def bytesOf (handle : IO.FS.Handle) : IO (Option Text.Bytes) := do
  try
    return some (← handle.readBinToEnd).toList
  catch _ => return none

/-- What is at a place of the machine: a file with its bytes or a directory. -/
def look (place : String) : IO (Option (Option Text.Bytes)) := do
  try
    return some (← bytesOf (← IO.FS.Handle.mk place .read))
  catch _ => return none

/-- The part of the files of the machine that some written paths lead through. -/
def lookAlong (paths : List String) : IO FileTree := do
  let entries ← (paths.flatMap placesAlong).filterMapM fun (written, path) => do
    return (← look written).map fun content => (path, content)
  return ⟨entries⟩

def carryOut (c : Command) : IO UInt32 := do
  match c.run (← lookAlong c.paths) with
  | .error f =>
      IO.eprintln (Command.reportText f)
      return 1
  | .ok report =>
      for message in report.messages do
        if let .wrote path := message then
          if let some bs := report.files.bytesAt? path then
            IO.FS.writeBinFile path ⟨bs.toArray⟩
        IO.eprintln message.toText
      (← IO.getStdout).putStr report.output
      return UInt32.ofNat report.status

end Stencil

/-- Reads the words of a command and carries it out. -/
def main (words : List String) : IO UInt32 := do
  match Stencil.Command.ofWords words with
  | .ok c => Stencil.carryOut c
  | .error .help =>
      IO.println Stencil.usage
      return 0
  | .error .misuse =>
      IO.eprintln Stencil.usage
      return 2
