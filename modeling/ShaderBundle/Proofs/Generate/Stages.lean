import ShaderBundle.Generate
import ShaderBundle.Proofs.Action.Writing

/-!
# The stages of a run

How a run is put together: finding the tools, making the scratch directory, converting, writing the module and
removing the scratch directory.

* `makeScratch_run`, `removeScratchDir_run`, `formatModule_ok`, `placeModule_ok`: what single stages do.
* `generate_ok`: a run that succeeds, taken apart. `generate_error`: one that fails.
-/

namespace ShaderBundle

open ShaderBundle.Action ShaderBundle.Tree

variable {h : Host} {config : Config} {w w' : World}

/-! ## The scratch directory -/

/-- The path that a run's scratch directory is made at. -/
def Host.scratchPath (h : Host) : String := inside h.scratchRoot h.scratchName

theorem makeScratch_run (h : Host) (w : World) :
    (∃ t, w.tree.makeDirectory h.here h.scratchPath = .ok t ∧
      makeScratch h w = (.ok (.ofText h.scratchPath), { w with tree := t })) ∨
    ∃ cause, makeScratch h w = (.error (.reported { cause }), w) := by
  unfold makeScratch
  dsimp only
  rw [bind_run, attempt_run, ← Host.scratchPath]
  cases hm : w.tree.makeDirectory h.here h.scratchPath with
  | ok t => exact .inl ⟨t, rfl, rfl⟩
  | error f => exact .inr ⟨_, rfl⟩

theorem makeScratch_ok {t : Tree} (hm : w.tree.makeDirectory h.here h.scratchPath = .ok t) :
    makeScratch h w = (.ok (.ofText h.scratchPath), { w with tree := t }) := by
  unfold makeScratch
  dsimp only
  rw [bind_run, attempt_run, ← Host.scratchPath, hm]
  rfl

theorem removeScratchDir_run {p : Path} {t : Tree} (hr : w.tree.removeDirectory h.here p.text = .ok t) :
    removeScratchDir h p w = (.ok (), { w with tree := t }) := clear_run hr

/-! ## The module -/

theorem placeModule_ok {file output : Path} {u : Unit} (hm : placeModule h file output w = (.ok u, w')) :
    isPlain output.text = true ∧
      ∃ t, w.tree.moveFile h.here file.text file.name output.text = .ok t ∧ w' = { w with tree := t } := by
  obtain ⟨result, w1, hmove, hm⟩ := bind_ok.mp hm
  have hmoves := moves_move h file.text file.name output.text w
  rw [hmove] at hmoves
  cases hmoves with
  | refused => cases hm
  | cut => cases hm
  | done hp ht =>
    cases hm
    exact ⟨hp, _, ht, rfl⟩

/-- A module that has been formatted: by nothing, or by a run of the formatter that succeeded. -/
theorem formatModule_ok {file : String} {u : Unit} (hf : formatModule h config file w = (.ok u, w')) :
    (config.formatter = [] ∧ w' = w) ∨
      ∃ name options tool n r, config.formatter = name :: options ∧ h.findTool? w.tree name = some tool ∧
        h.start n (tool :: options ++ [file]) w.tree = .ok (r, w'.tree) ∧ r.Succeeds := by
  unfold formatModule at hf
  cases hformatter : config.formatter with
  | nil =>
    simp only [hformatter] at hf
    cases hf
    exact .inl ⟨rfl, rfl⟩
  | cons name options =>
    right
    simp only [hformatter] at hf
    obtain ⟨tool, w1, hresolve, hf⟩ := bind_ok.mp hf
    obtain ⟨htool, hsame⟩ := resolveTool_ok hresolve
    subst w1
    obtain ⟨result, w2, hrun, hf⟩ := bind_ok.mp hf
    cases result with
    | error e => cases hf
    | ok report =>
      by_cases hstatus : report.status = 0
      · simp only [hstatus, ne_eq, not_true_eq_false, if_false] at hf
        cases hf
        obtain ⟨r, hstart, hread⟩ := run_ok hrun
        exact ⟨name, options, tool, _, r, rfl, htool, hstart, report, hread, hstatus⟩
      · simp only [hstatus, ne_eq, not_false_eq_true, if_true] at hf
        obtain ⟨_, w3, -, hf⟩ := bind_ok.mp hf
        cases hf

theorem writeModule_ok {source : String} {scratch output : Path}
    (hm : writeModule h config source scratch w = (.ok output, w')) :
    output = config.output ∧ Text.Writable source ∧ isPlain config.output.text = true ∧ ∃ t w1,
      w.tree.writeFile h.here (scratch.join (.ofText config.output.name)).text (Text.toUtf8 source) = .ok t ∧
      formatModule h config (scratch.join (.ofText config.output.name)).text { w with tree := t } = (.ok (), w1) ∧
      w1.tree.moveFile h.here (scratch.join (.ofText config.output.name)).text
        (scratch.join (.ofText config.output.name)).name config.output.text = .ok w'.tree := by
  unfold writeModule at hm
  obtain ⟨written, w1, hwrite, hm⟩ := bind_ok.mp hm
  cases written with
  | error e => cases hm
  | ok u =>
    obtain ⟨hwritable, -, t, ht, rfl⟩ := save_ok hwrite
    obtain ⟨_, w2, hformat, hm⟩ := bind_ok.mp hm
    obtain ⟨_, w3, hplace, hm⟩ := bind_ok.mp hm
    cases hm
    obtain ⟨hplain, t', hmove, rfl⟩ := placeModule_ok hplace
    exact ⟨rfl, hwritable, hplain, t, w2, ht, hformat, hmove⟩

/-! ## The whole run -/

/-- The generator of a run. -/
def generatorIn (h : Host) (config : Config) (glslcc fxc : String) (shaderDir scratch : Path) : Generator :=
  ⟨config, ⟨glslcc, shaderDir, scratch, config.flattenBlocks⟩, (⟨fxc, scratch⟩ : Bytecode.Fxc).compile h⟩

theorem generateIn_ok {glslcc fxc : String} {shaderDir scratch output : Path}
    (hg : generateIn h config glslcc fxc shaderDir scratch w = (.ok output, w')) :
    ∃ records w1 source, (generatorIn h config glslcc fxc shaderDir scratch).run h w = (.ok records, w1) ∧
      Go.emitModule config.package records = .ok source ∧
      writeModule h config source scratch w1 = (.ok output, w') := by
  obtain ⟨records, w1, hrun, hg⟩ := bind_ok.mp hg
  cases hm : Go.emitModule config.package records with
  | error refusal =>
    simp only [hm] at hg
    cases hg
  | ok source =>
    simp only [hm] at hg
    exact ⟨records, w1, source, hrun, hm, hg⟩

/-- What fails: a conversion, the emission, or writing the module. -/
theorem generateIn_error {glslcc fxc : String} {shaderDir scratch : Path} {e : Failure}
    (hg : generateIn h config glslcc fxc shaderDir scratch w = (.error e, w')) :
    (generatorIn h config glslcc fxc shaderDir scratch).run h w = (.error e, w') ∨
      ∃ records w1, (generatorIn h config glslcc fxc shaderDir scratch).run h w = (.ok records, w1) ∧
        ((∃ refusal, Go.emitModule config.package records = .error refusal ∧ e = .crashed refusal.crash ∧ w' = w1) ∨
          ∃ source, Go.emitModule config.package records = .ok source ∧
            writeModule h config source scratch w1 = (.error e, w')) := by
  change ((generatorIn h config glslcc fxc shaderDir scratch).run h >>= _) w = _ at hg
  rcases bind_error.mp hg with hrun | ⟨records, w1, hrun, hg⟩
  · exact .inl hrun
  refine .inr ⟨records, w1, hrun, ?_⟩
  cases hm : Go.emitModule config.package records with
  | error refusal =>
    simp only [hm] at hg
    cases hg
    exact .inl ⟨refusal, rfl, rfl, rfl⟩
  | ok source =>
    simp only [hm] at hg
    exact .inr ⟨source, rfl, hg⟩

theorem generate_ok {output : Path} (hg : generate h config w = (.ok output, w')) :
    ∃ glslcc fxc t w1 w2, h.findTool? w.tree config.glslcc = some glslcc ∧
      h.findTool? w.tree config.hlslCompiler = some fxc ∧
      w.tree.makeDirectory h.here h.scratchPath = .ok t ∧
      generateIn h config glslcc fxc (config.shaderDir.absolute h.path) (.ofText h.scratchPath)
        { w with tree := t } = (.ok output, w1) ∧
      removeScratchDir h (.ofText h.scratchPath) w1 = (.ok (), w2) ∧ w'.tree = w2.tree := by
  unfold generate at hg
  obtain ⟨glslcc, w1, hglslcc, hg⟩ := bind_ok.mp hg
  obtain ⟨hcross, hsame⟩ := resolveTool_ok hglslcc
  subst w1
  obtain ⟨fxc, w2, hfxc, hg⟩ := bind_ok.mp hg
  obtain ⟨hbytecode, hsame⟩ := resolveTool_ok hfxc
  subst w2
  obtain ⟨_, w3, hget, hg⟩ := bind_ok.mp hg
  cases hget
  split at hg
  · cases hg
  · obtain ⟨scratch, w4, hscratch, hg⟩ := bind_ok.mp hg
    rcases makeScratch_run h w with ⟨t, ht, hrun⟩ | ⟨e, hrun⟩
    · rw [hrun] at hscratch
      cases hscratch
      obtain ⟨output', w5, hensure, hg⟩ := bind_ok.mp hg
      obtain ⟨_, w6, hlog, hg⟩ := bind_ok.mp hg
      cases hlog
      cases hg
      obtain ⟨w7, hin, hremove⟩ := ensure_ok.mp hensure
      exact ⟨glslcc, fxc, t, w7, w5, hcross, hbytecode, ht, hin, hremove, rfl⟩
    · rw [hrun] at hscratch
      cases hscratch

/-- A run that fails is reported before its scratch directory is made, or it fails in it. -/
theorem generate_error {e : Failure} (hg : generate h config w = (.error e, w')) :
    (w' = w ∧ ∃ cause, e = .reported { cause }) ∨ ∃ glslcc fxc t, h.findTool? w.tree config.glslcc = some glslcc ∧
      h.findTool? w.tree config.hlslCompiler = some fxc ∧ w.tree.makeDirectory h.here h.scratchPath = .ok t ∧
      ensure (generateIn h config glslcc fxc (config.shaderDir.absolute h.path) (.ofText h.scratchPath))
        (removeScratchDir h (.ofText h.scratchPath)) { w with tree := t } = (.error e, w') := by
  unfold generate at hg
  rcases bind_error.mp hg with hglslcc | ⟨glslcc, w1, hglslcc, hg⟩
  · exact .inl (resolveTool_error hglslcc)
  obtain ⟨hcross, hsame⟩ := resolveTool_ok hglslcc
  subst w1
  rcases bind_error.mp hg with hfxc | ⟨fxc, w2, hfxc, hg⟩
  · exact .inl (resolveTool_error hfxc)
  obtain ⟨hbytecode, hsame⟩ := resolveTool_ok hfxc
  subst w2
  rcases bind_error.mp hg with hget | ⟨_, w3, hget, hg⟩
  · cases hget
  cases hget
  split at hg
  · cases hg
    exact .inl ⟨rfl, _, rfl⟩
  · rcases makeScratch_run h w with ⟨t, ht, hrun⟩ | ⟨cause, hrun⟩
    · rw [bind_run_ok hrun] at hg
      rcases bind_error.mp hg with hensure | ⟨output, w5, -, hg⟩
      · exact .inr ⟨glslcc, fxc, t, hcross, hbytecode, ht, hensure⟩
      · rcases bind_error.mp hg with hlog | ⟨_, w6, -, hg⟩
        · cases hlog
        · cases hg
    · rw [bind_run_error hrun] at hg
      cases hg
      exact .inl ⟨rfl, _, rfl⟩

theorem isDirectory_of_generate {output : Path} (hg : generate h config w = (.ok output, w')) :
    w.tree.isDirectory h.here (config.shaderDir.absolute h.path).text = true := by
  unfold generate at hg
  obtain ⟨glslcc, w1, hglslcc, hg⟩ := bind_ok.mp hg
  obtain ⟨-, hsame⟩ := resolveTool_ok hglslcc
  subst w1
  obtain ⟨fxc, w2, hfxc, hg⟩ := bind_ok.mp hg
  obtain ⟨-, hsame⟩ := resolveTool_ok hfxc
  subst w2
  obtain ⟨_, w3, hget, hg⟩ := bind_ok.mp hg
  cases hget
  split at hg
  · cases hg
  · next hdir => simpa using hdir

end ShaderBundle
