import Stencil.Proofs.CommandLine.Outcome
import Stencil.Proofs.Files.Writing

/-!
# What a command leaves behind

Everything that a command can report as a failure lies in front of the one place
where it puts something out. So a reported failure has put nothing out and
touched no file, and a command that ends well has done one of two things with
its text: the text is on its output and no file has changed, or it is in the
output file, which is then the only change, and the output is empty. Which text
that is does not depend on where it goes.
-/

namespace Stencil.Command

variable {t : FileTree} {c : Command} {r : Report} {text : String}

/-- The command without its output file. -/
def toOutput (c : Command) : Command := { c with output := none }

/-- The text is put where the command says: in its output file, as the only
change to the files, or else on its output. A file with an empty name is none. -/
def Delivers (t : FileTree) (c : Command) (text : String) (r : Report) : Prop :=
  match c.outputFile with
  | none => r.output = text ∧ r.files = t
  | some path => r.output = "" ∧ t.OnlyFile path (Text.utf8 text.toList) r.files

/-- A text is made without a look at where it goes. -/
theorem run_toOutput (h : c.produce t = .ok text) : c.toOutput.run t = .ok ⟨0, text, [], t⟩ := by
  have hproduce : c.toOutput.produce t = .ok text := h
  exact run_produced hproduce

theorem delivers_of_run (h : c.produce t = .ok text) (hrun : c.run t = .ok r) :
    r.status = 0 ∧ Delivers t c text r := by
  rw [run_produced h] at hrun
  unfold Delivers
  cases hfile : c.outputFile with
  | none =>
      rw [hfile] at hrun
      cases hrun
      exact ⟨rfl, rfl, rfl⟩
  | some path =>
      rw [hfile] at hrun
      obtain ⟨files, hwrite, hreport⟩ := bind_eq_ok.1 hrun
      cases hreport
      exact ⟨rfl, rfl, FileTree.write_onlyFile hwrite⟩

/-- A command that ends with status 1 has put nothing out and left every file as
it was. The only other ending is status 0, and then the text that the command
without its output file puts out has been delivered and nothing else has
changed. -/
theorem run_footprint (h : c.run t = .ok r) :
    (r.status = 1 ∧ r.output = "" ∧ r.files = t) ∨
      (r.status = 0 ∧ ∃ text, c.toOutput.run t = .ok ⟨0, text, [], t⟩ ∧ Delivers t c text r) := by
  cases hproduce : c.produce t with
  | error f =>
      rw [run_stumbled (produce_eq_error.1 hproduce)] at h
      split at h
      · cases h
        exact .inl ⟨rfl, rfl, rfl⟩
      · cases h
  | ok text =>
      obtain ⟨hstatus, hdelivers⟩ := delivers_of_run hproduce h
      exact .inr ⟨hstatus, text, run_toOutput hproduce, hdelivers⟩

/-- A template of one letter, and a file with some content. -/
def twoFiles (content : List Char) : FileTree :=
  ⟨[(["t.txt"], some (Text.utf8 ['x'])), (["out.txt"], some (Text.utf8 content))]⟩

theorem run_footprint_overwritten :
    ofWords ["t.txt", "-o", "out.txt"] = .ok (toFile "out.txt") ∧
      ∃ r, (toFile "out.txt").run (twoFiles ['o', 'l', 'd']) = .ok r ∧ r.output = "" ∧
        r.files.bytesAt? "out.txt" = some (Text.utf8 ['x']) := by
  have htemplate : (toFile "out.txt").readTemplate (twoFiles ['o', 'l', 'd']) = .ok "x" :=
    congrArg (Except.map String.ofList) (FileTree.textOf_utf8 (by decide))
  have hproduce : (toFile "out.txt").produce (twoFiles ['o', 'l', 'd']) = .ok "x" := by
    rw [produce_rendering rfl, htemplate, ok_bind]
    exact Printed.renderText_plain (by decide) false 256 .standard []
  have hrun : (toFile "out.txt").run (twoFiles ['o', 'l', 'd']) =
      .ok ⟨0, "", [.wrote "out.txt"], twoFiles ['x']⟩ := by
    rw [run_produced hproduce]
    rfl
  refine ⟨rfl, _, hrun, ?_⟩
  rcases run_footprint hrun with ⟨hstatus, -⟩ | ⟨-, text, htext, hdelivers⟩
  · cases hstatus
  · rw [run_toOutput hproduce] at htext
    cases htext
    exact ⟨hdelivers.1, hdelivers.2.bytes⟩

end Stencil.Command
