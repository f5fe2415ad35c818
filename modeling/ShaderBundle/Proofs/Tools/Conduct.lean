import ShaderBundle.Proofs.Action.Conduct
import ShaderBundle.Proofs.Tools.Bytecode
import ShaderBundle.Proofs.Tools.CrossCompiler

/-!
# Conduct of the tools

Each use of a tool is one run at most. Whatever goes wrong with it is reported, but for crashes of the run and for a
source that cannot be written as it is.

* `CrossCompiler.settle`, `Bytecode.Fxc.settle`: what is done after a run.
* `CrossCompiler.starts_convert`, `Bytecode.Fxc.starts_compile`: what is run.
* `CrossCompiler.convert_error`, `Bytecode.Fxc.compile_error`: how it fails.
* `CrossCompiler.tame_convert`, `Bytecode.Fxc.tame_compile`: no error is logged.
-/

namespace ShaderBundle

open ShaderBundle.Action

/-- It is reported, and not yet said to be about anything. -/
def Failure.Plain (f : Failure) : Prop := ∃ cause, f = .reported { cause }

/-- And what is wrong is not that a path tells no stage. -/
def Failure.Staged (f : Failure) : Prop :=
  ∃ cause, f = .reported { cause } ∧ ∀ path tool words, cause ≠ .tool (.unknownStage path) tool words

theorem Failure.Staged.plain {f : Failure} (hf : f.Staged) : f.Plain := hf.imp fun _ => And.left

variable {h : Host}

/-! ## The cross compiler -/

namespace CrossCompiler

variable {c : CrossCompiler} {path : String} {stage : Stage} {target : Target} {f : Failure} {w w' : World}

/-- What is done once a run has ended. -/
def settle (c : CrossCompiler) (h : Host) (path : String) (stage : Stage) (target : Target) :
    Except FileError ProcessReport → Action (String × Bytes)
  | .error e => fail (.tool (.cannotRun (some path) c.tool e) (some c.tool) "")
  | .ok report => do
    logWords .debug report.stdout
    if report.status ≠ 0 then
      logWords .warning report.stderr
      fail (.tool (.failed path (some target.label) c.tool report.status) (some c.tool) report.stderr)
    else
      logWords .debug report.stderr
      c.takeOutputs h path stage target

theorem convert_eq (c : CrossCompiler) (h : Host) (path : String) (target : Target) :
    c.convert h path target = (do
      let stage ← stageOf path
      let result ← run h (c.command path stage target)
      c.settle h path stage target result) := by
  unfold convert
  congr

theorem starts_takeOutputs : Starts [] (c.takeOutputs h path stage target) := by
  refine Starts.ensure (Starts.get.bind fun w => ?_) ((Starts.discard h _).bind fun _ => Starts.discard h _)
  split
  · exact .pure _
  · exact .fail _

theorem starts_settle (result : Except FileError ProcessReport) : Starts [] (c.settle h path stage target result) := by
  cases result with
  | error e => exact .fail _
  | ok report =>
    refine (Starts.logWords _ _).bind fun _ => ?_
    split
    · exact (Starts.logWords _ _).bind fun _ => .fail _
    · exact (Starts.logWords _ _).bind fun _ => starts_takeOutputs

theorem starts_convert (hstage : Stage.ofPath? (.ofText path) = some stage) :
    Starts [c.command path stage target] (c.convert h path target) := by
  intro w
  rw [convert_eq, bind_run_ok (stageOf_run hstage w)]
  exact (Starts.run h _).bind starts_settle w

theorem tame_takeOutputs : Tame Failure.Staged (c.takeOutputs h path stage target) := by
  refine Tame.ensure (Tame.get.bind fun w => ?_) ((Tame.discard h _).bind fun _ => Tame.discard h _)
  split
  · exact .pure _
  · exact .fail ⟨_, rfl, nofun⟩

theorem tame_settle (result : Except FileError ProcessReport) :
    Tame Failure.Staged (c.settle h path stage target result) := by
  cases result with
  | error e => exact .fail ⟨_, rfl, nofun⟩
  | ok report =>
    refine (Tame.logWords (by decide) _).bind fun _ => ?_
    split
    · exact (Tame.logWords (by decide) _).bind fun _ => .fail ⟨_, rfl, nofun⟩
    · exact (Tame.logWords (by decide) _).bind fun _ => tame_takeOutputs

/-- A translation that fails is reported, or its run crashes. -/
theorem convert_error (hstage : Stage.ofPath? (.ofText path) = some stage)
    (hc : c.convert h path target w = (.error f, w')) :
    f.Staged ∨ ∃ k, f = .crashed k ∧ h.RunCrashes w.runs.length (c.command path stage target) w.tree k := by
  rw [convert_eq, bind_run_ok (stageOf_run hstage w)] at hc
  rcases Tame.after tame_settle hc with hrun | hstaged
  · exact .inr (run_error hrun)
  · exact .inl hstaged

end CrossCompiler

/-! ## The bytecode compiler -/

namespace Bytecode

namespace Fxc

variable {c : Fxc} {source entry profile : String} {f : Failure} {w w' : World}

/-- What is done once a run has ended. -/
def settle (h : Host) (c : Fxc) (profile : String) : Except FileError ProcessReport → Action Bytes
  | .error e => fail (.tool (.cannotRun none c.tool e) (some c.tool) "")
  | .ok report =>
    if report.status ≠ 0 then fail (.bytecode profile report.stderr)
    else do
      match ← ask (·.readFile h.here c.outputPath) with
      | .ok bytes => return bytes
      | .error e => fail (.bytecode profile s!"no output: {e.message}")

theorem runTool_eq (h : Host) (c : Fxc) (entry profile : String) :
    runTool h c entry profile = run h (c.command entry profile) >>= settle h c profile := by
  unfold runTool
  congr

theorem starts_settle (result : Except FileError ProcessReport) : Starts [] (settle h c profile result) := by
  cases result with
  | error e => exact .fail _
  | ok report =>
    unfold settle
    dsimp only
    split
    · exact .fail _
    · refine (Starts.ask _).bind fun found => ?_
      cases found with
      | ok bytes => exact .pure _
      | error e => exact .fail _

theorem starts_runTool : Starts [c.command entry profile] (runTool h c entry profile) := by
  rw [runTool_eq]
  exact (Starts.run h _).bind starts_settle

/-- The tool is run unless the source is not written. -/
theorem starts_compile (source entry profile : String) (w : World) :
    (∃ f w', c.compile h source entry profile w = (.error f, w') ∧ w'.runs = w.runs ∧
      ∀ profile' words context, f ≠ .reported ⟨.bytecode profile' words, context⟩) ∨
    (c.compile h source entry profile w).2.runs = w.runs ++ [c.command entry profile] := by
  unfold Fxc.compile
  rcases hs : save h c.sourcePath source w with ⟨result, w1⟩
  have hruns : w1.runs = w.runs := by
    have hruns := Starts.save h c.sourcePath source w
    rwa [hs, Ran.none_iff] at hruns
  rcases result with f | e | ⟨⟨⟩⟩
  · obtain ⟨-, k, rfl, -⟩ := save_error hs
    exact .inl ⟨_, w1, bind_run_error hs, hruns, nofun⟩
  · exact .inl ⟨_, w1, bind_run_ok hs, hruns, nofun⟩
  · rw [bind_run_ok hs, ← hruns]
    exact .inr ((starts_runTool.ensure ((Starts.discard h _).bind fun _ => Starts.discard h _)) w1)

theorem tame_settle (result : Except FileError ProcessReport) : Tame Failure.Staged (settle h c profile result) := by
  cases result with
  | error e => exact .fail ⟨_, rfl, nofun⟩
  | ok report =>
    unfold settle
    dsimp only
    split
    · exact .fail ⟨_, rfl, nofun⟩
    · refine (Tame.ask _).bind fun found => ?_
      cases found with
      | ok bytes => exact .pure _
      | error e => exact .fail ⟨_, rfl, nofun⟩

theorem tame_discards {P : Failure → Prop} : Tame P (do discard h c.sourcePath; discard h c.outputPath) :=
  (Tame.discard h _).bind fun _ => Tame.discard h _

/-- A compilation that fails is reported, or the source cannot be written as it is, or the run on it crashes. -/
theorem compile_error (hc : c.compile h source entry profile w = (.error f, w')) :
    f.Staged ∨ ∃ k, f = .crashed k ∧ (Unsaved c.sourcePath source k ∨
      ∃ t, w.tree.writeFile h.here c.sourcePath (Text.toUtf8 source) = .ok t ∧
        h.RunCrashes w.runs.length (c.command entry profile) t k) := by
  unfold Fxc.compile at hc
  rcases bind_error.mp hc with hsave | ⟨r, w1, hsave, hc⟩
  · obtain ⟨-, k, rfl, hk⟩ := save_error hsave
    exact .inr ⟨k, rfl, .inl hk⟩
  cases r with
  | error e =>
    cases hc
    exact .inl ⟨_, rfl, nofun⟩
  | ok u =>
    obtain ⟨-, -, t, ht, rfl⟩ := save_ok hsave
    rcases ensure_error hc with ⟨w2, hbody⟩ | ⟨r, w2, -, hafter⟩
    · rw [runTool_eq] at hbody
      rcases Tame.after tame_settle hbody with hrun | hstaged
      · obtain ⟨k, rfl, hk⟩ := run_error hrun
        exact .inr ⟨k, rfl, .inr ⟨t, ht, hk⟩⟩
      · exact .inl hstaged
    · exact ((tame_discards (P := fun _ => False)).fails hafter).elim

end Fxc

end Bytecode

end ShaderBundle
