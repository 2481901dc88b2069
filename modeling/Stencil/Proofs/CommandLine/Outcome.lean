import Stencil.CommandLine.Run
import Stencil.Proofs.Files.Tree
import Stencil.Proofs.Template.Rendering

/-!
# How a command ends

A command reads its template, then lists the inputs or loads arguments and
renders, and only then writes. `Stumbles` lists the steps up to there that can
fail, with what has gone well before each. Whatever they meet, a mistake of the
template or something that is missing ends the command with status 1 and one
message, and no file has changed.

Writing comes after the place where failures are told to the user. So one thing
that is missing does leave a command in the middle, a directory on the way to
the file that it writes; `run_outcome` says that nothing else of this sort does.
-/

namespace Stencil.Command

variable {t : FileTree} {c : Command} {f : Failure}

/-- A mistake of the template, or a file or directory that is missing. -/
def TemplateOrMissing (f : Failure) : Prop := f.isTemplateError = true ∨ f.kind = .missingFile

/-! ## Steps -/

/-- The arguments that a command loads from a file. -/
def FromFile (t : FileTree) (c : Command) : Except Failure Arguments :=
  match c.argumentFile with
  | none | some "" => .ok []
  | some path => ArgumentFile.load t path

/-- The first failure that a step of a command meets before it writes. -/
inductive Stumbles (t : FileTree) (c : Command) : Failure → Prop
  | template {f : Failure} : c.readTemplate t = .error f → Stumbles t c f
  | listing {template : String} {f : Failure} : c.readTemplate t = .ok template →
      c.list = true → c.options.listVariables template = .error f → Stumbles t c f
  | needs {template : String} {inputs : Inputs} {f : Failure} : c.readTemplate t = .ok template →
      c.list = true → c.options.listVariables template = .ok inputs →
      c.options.needsArguments template = .error f → Stumbles t c f
  | document {template : String} {inputs : Inputs} {needed : Bool} {f : Failure} :
      c.readTemplate t = .ok template → c.list = true →
      c.options.listVariables template = .ok inputs →
      c.options.needsArguments template = .ok needed →
      Json.text .indented (inputsDocument inputs needed) = .error f → Stumbles t c f
  | argumentFile {template : String} {f : Failure} : c.readTemplate t = .ok template →
      c.list = false → FromFile t c = .error f → Stumbles t c f
  | assignment {template : String} {loaded : Arguments} {f : Failure} :
      c.readTemplate t = .ok template → c.list = false → FromFile t c = .ok loaded →
      Assignment.readAll c.assignments = .error f → Stumbles t c f
  | rendering {template : String} {args : Arguments} {f : Failure} :
      c.readTemplate t = .ok template → c.list = false → c.arguments t = .ok args →
      c.options.renderText template args = .error f → Stumbles t c f

theorem arguments_eq : c.arguments t = FromFile t c >>= fun loaded =>
    Assignment.readAll c.assignments >>= fun set => .ok (Arguments.update loaded set) := by
  rw [arguments, FromFile]
  rcases c.argumentFile with _ | path
  · rfl
  · by_cases hpath : path = ""
    · subst hpath
      rfl
    · simp only

theorem produce_listing (hlist : c.list = true) : c.produce t =
    c.readTemplate t >>= fun template => c.options.listVariables template >>= fun inputs =>
      c.options.needsArguments template >>= fun needed =>
        Json.text .indented (inputsDocument inputs needed) >>= fun text => .ok (text ++ "\n") := by
  rw [produce]
  simp only [hlist, if_true]

theorem produce_rendering (hlist : c.list = false) : c.produce t =
    c.readTemplate t >>= fun template => c.arguments t >>= fun args =>
      c.options.renderText template args := by
  rw [produce]
  simp only [hlist, Bool.false_eq_true, if_false]

/-- What fails before anything is written is the first step that fails. -/
theorem produce_eq_error : c.produce t = .error f ↔ Stumbles t c f := by
  constructor
  · intro h
    cases hlist : c.list with
    | true =>
        rw [produce_listing hlist] at h
        rcases bind_eq_error.1 h with h | ⟨template, htemplate, h⟩
        · exact .template h
        rcases bind_eq_error.1 h with h | ⟨inputs, hinputs, h⟩
        · exact .listing htemplate hlist h
        rcases bind_eq_error.1 h with h | ⟨needed, hneeded, h⟩
        · exact .needs htemplate hlist hinputs h
        rcases bind_eq_error.1 h with h | ⟨text, _, h⟩
        · exact .document htemplate hlist hinputs hneeded h
        · cases h
    | false =>
        rw [produce_rendering hlist] at h
        rcases bind_eq_error.1 h with h | ⟨template, htemplate, h⟩
        · exact .template h
        rcases bind_eq_error.1 h with h | ⟨args, hargs, h⟩
        · rw [arguments_eq] at h
          rcases bind_eq_error.1 h with h | ⟨loaded, hloaded, h⟩
          · exact .argumentFile htemplate hlist h
          rcases bind_eq_error.1 h with h | ⟨set, _, h⟩
          · exact .assignment htemplate hlist hloaded h
          · cases h
        · exact .rendering htemplate hlist hargs h
  · intro h
    cases h with
    | template h =>
        rw [produce, h]
        rfl
    | listing htemplate hlist h => rw [produce_listing hlist, htemplate, ok_bind, h]; rfl
    | needs htemplate hlist hinputs h =>
        rw [produce_listing hlist, htemplate, ok_bind, hinputs, ok_bind, h]
        rfl
    | document htemplate hlist hinputs hneeded h =>
        rw [produce_listing hlist, htemplate, ok_bind, hinputs, ok_bind, hneeded, ok_bind, h]
        rfl
    | argumentFile htemplate hlist h =>
        rw [produce_rendering hlist, htemplate, ok_bind, arguments_eq, h]
        rfl
    | assignment htemplate hlist hloaded h =>
        rw [produce_rendering hlist, htemplate, ok_bind, arguments_eq, hloaded, ok_bind, h]
        rfl
    | rendering htemplate hlist hargs h =>
        rw [produce_rendering hlist, htemplate, ok_bind, hargs, ok_bind, h]

/-! ## Endings -/

theorem isReported_of_templateOrMissing (h : TemplateOrMissing f) : isReported f = true := by
  rcases h with h | h
  · rw [isReported, h, Bool.true_or]
  · rw [isReported, h, Bool.or_true]

theorem run_stumbled (h : Stumbles t c f) :
    c.run t = if isReported f then .ok ⟨1, "", [.failed f], t⟩ else .error f := by
  rw [run, produce_eq_error.2 h]

/-- The file that the output goes to. -/
def outputFile (c : Command) : Option String :=
  match c.output with
  | none | some "" => none
  | some path => some path

theorem run_produced {text : String} (h : c.produce t = .ok text) : c.run t =
    match c.outputFile with
    | none => .ok ⟨0, text, [], t⟩
    | some path => t.write path text.toList >>= fun files => .ok ⟨0, "", [.wrote path], files⟩ := by
  rw [run, h, outputFile]
  rcases c.output with _ | path
  · rfl
  · by_cases hpath : path = ""
    · subst hpath
      rfl
    · simp only

/-- The one thing that is missing where a file is written: a directory on the
way to it. -/
theorem write_missing (h : TemplateOrMissing f) {path : String} {cs : List Char} :
    t.write path cs = .error f ↔ f = .noPath ∧ Path.isImpossible path = false ∧
      ∃ p, t.BlockedAt [] path p ∧ t.isFile p = false := by
  rw [FileTree.write_eq_error]
  constructor
  · rintro (⟨_, rfl⟩ | ⟨hpath, ⟨p, hblocked, rfl⟩ | ⟨_, _, rfl⟩⟩)
    · rcases h with h | h <;> cases h
    · rw [FileTree.blocked] at h ⊢
      cases hfile : t.isFile p with
      | true =>
          rw [hfile] at h
          rcases h with h | h <;> cases h
      | false => exact ⟨rfl, hpath, p, hblocked, hfile⟩
    · rcases h with h | h <;> cases h
  · rintro ⟨rfl, hpath, p, hblocked, hfile⟩
    refine .inr ⟨hpath, .inl ⟨p, hblocked, ?_⟩⟩
    rw [FileTree.blocked, hfile]
    rfl

/-- A mistake of the template or something missing that a step of a command
meets before it writes ends the command with status 1 and one message, with
nothing put out and no file changed. No mistake of a template ends a command in
the middle, and something that is missing does only in one case: there is a text
to be written, and the first place on the way to its file that is no directory
is not there at all. -/
theorem run_outcome (t : FileTree) (c : Command) {f : Failure} (h : TemplateOrMissing f) :
    (Stumbles t c f → c.run t = .ok ⟨1, "", [.failed f], t⟩ ∧
      (Message.failed f).toText = "Error: " ++ f.message?.getD "*") ∧
    (c.run t = .error f ↔ f = .noPath ∧
      ∃ text path, c.produce t = .ok text ∧ c.outputFile = some path ∧
        Path.isImpossible path = false ∧ ∃ p, t.BlockedAt [] path p ∧ t.isFile p = false) := by
  refine ⟨fun hstumbles => ⟨?_, rfl⟩, ?_⟩
  · rw [run_stumbled hstumbles, if_pos (isReported_of_templateOrMissing h)]
  -- What fails in front of the writing is told or is of another sort; behind it
  -- only the writing itself can fail.
  cases hproduce : c.produce t with
  | error f' =>
      have hrun := run_stumbled (produce_eq_error.1 hproduce)
      constructor
      · intro hf
        rw [hrun] at hf
        split at hf
        · cases hf
        · next hreported =>
            cases hf
            exact absurd (isReported_of_templateOrMissing h) hreported
      · rintro ⟨_, text, path, htext, _⟩
        cases htext
  | ok text =>
      rw [run_produced hproduce]
      cases hfile : c.outputFile with
      | none => simp
      | some path =>
          dsimp only
          rw [bind_eq_error, write_missing h]
          constructor
          · rintro (⟨rfl, hpath, hblocked⟩ | ⟨files, _, hok⟩)
            · exact ⟨rfl, text, path, rfl, rfl, hpath, hblocked⟩
            · cases hok
          · rintro ⟨rfl, _, _, _, hsome, hpath, hblocked⟩
            cases hsome
            exact .inl ⟨rfl, hpath, hblocked⟩

/-- The command for the file `t.txt` with no more than an output file. -/
def toFile (path : String) : Command :=
  ⟨"t.txt", none, [], false, false, false, some path, false⟩

theorem run_outcome_noTemplate :
    ofWords ["t.txt", "-o", "out.txt"] = .ok (toFile "out.txt") ∧
      TemplateOrMissing (.noFile "t.txt") ∧
      (toFile "out.txt").run ⟨[]⟩ = .ok ⟨1, "", [.failed (.noFile "t.txt")], ⟨[]⟩⟩ := by
  have hmissing : TemplateOrMissing (.noFile "t.txt") := .inr rfl
  exact ⟨rfl, hmissing, ((run_outcome ⟨[]⟩ (toFile "out.txt") hmissing).1 (.template rfl)).1⟩

/-- Where the directory of the output file is missing, the command ends in the
middle. -/
theorem run_outputMissing :
    ofWords ["t.txt", "-o", "missing/out.txt"] = .ok (toFile "missing/out.txt") ∧
      TemplateOrMissing .noPath ∧
      (toFile "missing/out.txt").run ⟨[(["t.txt"], some (Text.utf8 ['x']))]⟩ =
        .error .noPath := by
  refine ⟨rfl, .inr rfl, ?_⟩
  have htemplate : (toFile "missing/out.txt").readTemplate
      ⟨[(["t.txt"], some (Text.utf8 ['x']))]⟩ = .ok "x" :=
    congrArg (Except.map String.ofList) (FileTree.textOf_utf8 (by decide))
  have hproduce : (toFile "missing/out.txt").produce ⟨[(["t.txt"], some (Text.utf8 ['x']))]⟩ =
      .ok "x" := by
    rw [produce_rendering rfl, htemplate, ok_bind]
    exact Printed.renderText_plain (by decide) false 256 .standard []
  rw [run_produced hproduce]
  rfl

end Stencil.Command
