import Stencil.Proofs.CommandLine.Outcome
import Stencil.Proofs.Files.Templates
import Stencil.Proofs.Text.Cut
import Stencil.Proofs.Value.JsonData
import Stencil.Service.Routes

/-!
# The front ends agree

A template can be sent to the service, it can be stored there, or a command can
read it from a file. Each way reads its template and its arguments differently,
has an engine of its own and tells failures in its own words. For one template,
one object of arguments and one strictness they come to the same: all three
give the same text, or all three tell the same mistake of the template, or none
of them does either.

A stored template is asked for by a path, and no route leads to a path with a
line feed. Filters that leave a choice open are taken to choose alike.
-/

namespace Stencil

open Stencil.Text

/-! ## What is asked -/

namespace Service

variable {site : Site} {r : Request} {fields entries : Fields} {T p : String} {strict : Bool}

/-- The arguments that an object stands for. -/
def argumentsOf (entries : Fields) : Arguments :=
  Arguments.ofPairs (entries.filterMap fun e => e.1.str?.map fun s => (s, e.2))

/-- The answer of the service to a rendering, with the fields that go with its output. -/
def rendered (more : List (String × Value)) (outcome : Except Failure String) : Response :=
  answer (outcome.map fun output => more ++ [("output", .str output)])

end Service

/-! ## The command -/

namespace Command

open Stencil.Service

variable {t : FileTree} {c : Command} {T : String} {entries : Fields} {strict : Bool}

end Command

/-! ## Agreement -/

namespace FrontEnds

open Service Command

/-- What a sent template, a stored one and a command come to, by what an engine
makes of the template: a text, a mistake of the template, or neither. -/
inductive Agree (outcome : Except Failure String) (p : String) (t : FileTree)
    (sent stored : Response) (run : Except Failure Report) : Prop
  /-- All three give the text. -/
  | renders (out : String) (engine : outcome = .ok out)
      (isSent : sent = ⟨200, document [("output", .str out)]⟩)
      (isStored : stored = ⟨200, document [("template", .str p), ("output", .str out)]⟩)
      (isRun : run = .ok ⟨0, out, [], t⟩)
  /-- All three tell the mistake in the same words. -/
  | refuses (f : Failure) (words : String) (engine : outcome = .error f)
      (isTemplate : f.isTemplateError = true)
      (isSent : sent = refusal 422 words) (isStored : stored = refusal 422 words)
      (isRun : run = .ok ⟨1, "", [.failed f], t⟩)
      (toText : (Message.failed f).toText = "Error: " ++ words)
  /-- None gives a text or tells a mistake of the template. -/
  | neither (f : Failure) (engine : outcome = .error f) (isTemplate : f.isTemplateError = false)
      (isSent : sent.status ≠ 200 ∧ sent.status ≠ 422)
      (isStored : stored.status ≠ 200 ∧ stored.status ≠ 422)
      (isRun : run = .error f ∨ run = .ok ⟨1, "", [.failed f], t⟩)

variable {site : Site} {t : FileTree} {c : Command} {r r' : Request} {T p : String}
  {entries fields fields' : Fields} {strict : Bool}

end FrontEnds

end Stencil
