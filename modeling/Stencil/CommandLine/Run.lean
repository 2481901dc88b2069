import Stencil.CommandLine.Assignment
import Stencil.CommandLine.Usage
import Stencil.Files.ArgumentFile
import Stencil.Template.Settings

/-!
# Carrying out a command

A command renders the template of a file, or lists its inputs, and writes the result to a file or to
its output. Everything that can go wrong with the template and the arguments is reported and ends
the command with status 1, before anything is written.
-/

namespace Stencil

namespace Command

/-- What a command tells its user besides its output. -/
inductive Message
  | failed (f : Failure)
  | wrote (path : String)
deriving DecidableEq, Repr

/-- What a command leaves behind. -/
structure Report where
  status : Nat
  output : String
  messages : List Message
  files : FileTree

def options (c : Command) : Options :=
  { Options.standard with strict := c.strict, trimming := ⟨c.trimBlocks, c.trimBlocks⟩ }

def readTemplate (t : FileTree) (c : Command) : Except Failure String :=
  match t.bytesAt? c.template with
  | some bs => (FileTree.textOf bs).map String.ofList
  | none => .error (.noFile c.template)

/-- The arguments of the file, with those of the assignments put over them. -/
def arguments (t : FileTree) (c : Command) : Except Failure Arguments := do
  let fromFile ← match c.argumentFile with
    | none | some "" => .ok []
    | some path => ArgumentFile.load t path
  .ok (Arguments.update fromFile (← Assignment.readAll c.assignments))

/-- The inputs of a template as a document. -/
def inputsDocument (i : Inputs) (needsArguments : Bool) : Value :=
  let names := fun (xs : List String) => Value.list (xs.map .str)
  .mapping [(.str "arguments", names i.arguments),
    (.str "defaults", .mapping (i.defaults.map fun e => (.str e.1, e.2))),
    (.str "conditions", names i.conditions), (.str "needs_arguments", .bool needsArguments)]

def produce (t : FileTree) (c : Command) : Except Failure String := do
  let template ← c.readTemplate t
  if c.list then do
    let inputs ← c.options.listVariables template
    let doc := inputsDocument inputs (← c.options.needsArguments template)
    .ok ((← Json.text .indented doc) ++ "\n")
  else do c.options.renderText template (← c.arguments t)

/-- Whether a failure is reported to the user. All others end the command in the middle. -/
def isReported (f : Failure) : Bool :=
  f.isTemplateError || match f.kind with
    | .value | .unicode | .json | .yaml | .missingFile => true
    | _ => false

def run (t : FileTree) (c : Command) : Except Failure Report :=
  match c.produce t with
  | .error f => if isReported f then .ok ⟨1, "", [.failed f], t⟩ else .error f
  | .ok text =>
      match c.output with
      | none | some "" => .ok ⟨0, text, [], t⟩
      | some path => do .ok ⟨0, "", [.wrote path], ← t.write path text.toList⟩

/-- The words of a failure as they are reported. -/
def reportText (f : Failure) : String := "Error: " ++ f.message?.getD "*"

def Message.toText : Message → String
  | .failed f => reportText f
  | .wrote path => "Wrote " ++ path

end Command

end Stencil
