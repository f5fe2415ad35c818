import ShaderBundle.Proofs.Generate.Placed
import ShaderBundle.Proofs.Tools.CrossCompiler

/-!
# Failed runs leave no trace

A run that fails leaves every file and directory as it was: what it has written is in its scratch directory, and
that is removed. There is one exception. A module that cannot be renamed, as its place is on another device, is copied
over what is there, and where the disk takes a part of it only, that part is left.

* `CutShort`: what is left then.
* `generate_atomic`: whatever makes a run fail.
-/

namespace ShaderBundle

open ShaderBundle.Action ShaderBundle.Tree

variable {h : Host} {config : Config} {w w' : World} {e : Failure}

/-- The disk has taken a part of the module only, and the part is where the module should have gone. -/
def CutShort (h : Host) (config : Config) (w : World) (e : Failure) (t : Tree) : Prop :=
  h.apart = true ∧ ∃ content n m fault source place x k, Produced h config w content ∧
    h.disk n place content = some (m, fault) ∧
    e = config.cutFailure fault source place ∧
    Placed w.tree t h.here config.output.text config.output.name (.file (content.take m) x) k

section
variable {t1 : Tree} {s : Location} {w1 : World} {glslcc fxc : String} (hc : Confined h config)
  (ho : config.output.Proper) (ht : w.tree.WellFormed) (hcross : h.findTool? w.tree config.glslcc = some glslcc)
  (hbytecode : h.findTool? w.tree config.hlslCompiler = some fxc)
  (hmake : w.tree.makeDirectory h.here h.scratchPath = .ok t1)
include hc ho ht hcross hbytecode hmake

/-- What is done in the scratch directory and fails can be taken back, but for a module that is cut short. -/
theorem generateIn_fails (hin : generateIn h config glslcc fxc (config.shaderDir.absolute h.path)
      (.ofText h.scratchPath) { w with tree := t1 } = (.error e, w1)) :
    ∃ t2, w1.tree.removeDirectory h.here (Path.ofText h.scratchPath).text = .ok t2 ∧
      (w.tree.Same t2 ∨ CutShort h config w e t2) ∧ t2.entry? h.here h.scratchPath = none := by
  obtain ⟨s, hleads, hnone, hs, ht1, hsame⟩ := scratch_of_makeDirectory ht hmake
  have hup : t1.get? s.dropLast = some .directory := ht1.parent_directory (by simp [hs.directory])
  have hne : s ≠ [] := by
    rintro rfl
    cases hnone
  have hworks : (generatorIn h config glslcc fxc (config.shaderDir.absolute h.path)
      (.ofText h.scratchPath)).WorksIn h (.ofText h.scratchPath) := ⟨rfl, fxc, rfl⟩
  have hrun := within_run hs hc hworks (w := { w with tree := t1 }) ht1.names hs.within
  have hback {t : Tree} (hw : Within t1 s t) :
      ∃ t2, t.removeDirectory h.here (Path.ofText h.scratchPath).text = .ok t2 ∧
        (w.tree.Same t2 ∨ CutShort h config w e t2) ∧ t2.entry? h.here h.scratchPath = none := by
    obtain ⟨t2, hremove, hview⟩ := hs.removeDirectory hne hw
    have hall : w.tree.Same t2 := by
      intro l
      rw [hview]
      split
      · next hl =>
        obtain ⟨names, rfl⟩ := hl
        exact ht.absent_below hnone names
      · next hl => exact (hsame l hl).symm
    exact ⟨t2, hremove, .inl hall, entry?_of_absent (hall.locate .. ▸ hleads) (hall s ▸ hnone)⟩
  rcases generateIn_error hin with hfailed | ⟨records, w2, hrecords, ⟨_, -, -, rfl⟩ | ⟨source, hm, hin⟩⟩
  · rw [hfailed] at hrun
    exact hback hrun
  · rw [hrecords] at hrun
    exact hback hrun
  · rw [hrecords] at hrun
    rcases writeModule_error hs hup hc ho hrun hin with hw1 | ⟨t, content, x, moved, n, m, fault, source', place,
      hready, hmoved, rfl, hapart, hdisk, hpart, rfl⟩
    · exact hback hw1
    have hworking : Working w.tree t1 h.here (.ofText h.scratchPath) s t := ⟨ht, hnone, hsame, hs, hready.within⟩
    obtain ⟨q, hq, hchild⟩ := Path.exists_child ho hready.name
    have htarget : config.output.text = (q.child config.output.name).text := congrArg Path.text hchild
    rw [htarget] at hmoved hpart
    obtain ⟨t2, x', k, hremove, hgone, hdirectory, hplaced⟩ := hworking.placed_part hq hready.name
      (by simp [hready.file]) hmoved hpart
    rw [← htarget] at hplaced
    have hproduced : Produced h config w content :=
      ⟨glslcc, fxc, t1, records, w2, source, hcross, hbytecode, hmake, hrecords, hm, hready.formatted⟩
    have hcut : CutShort h config w (config.cutFailure fault source' _) t2 :=
      ⟨hapart, content, n, m, fault, source', _, x', k, hproduced, hdisk, rfl, hplaced⟩
    have hleads' : t2.locate h.here h.scratchPath = .ok s := locate_mono hdirectory hleads
    exact ⟨t2, hremove, .inr hcut, entry?_of_absent hleads' hgone⟩

end

/-- A failed run changes nothing, unless the module was to be copied to its place and has been cut short there. Its
scratch directory is gone. -/
theorem generate_atomic (hc : Confined h config) (ho : ∃ text, config.output = .ofText text)
    (ht : w.tree.WellFormed) (he : generate h config w = (.error e, w')) :
    ((∀ l, w'.tree.get? l = w.tree.get? l) ∨ CutShort h config w e w'.tree) ∧
      ∀ t, w.tree.makeDirectory h.here h.scratchPath = .ok t → w'.tree.entry? h.here h.scratchPath = none := by
  obtain ⟨text, htext⟩ := ho
  have hproper : config.output.Proper := htext ▸ Path.proper_ofText text
  rcases generate_error he with ⟨rfl, -⟩ | ⟨glslcc, fxc, t1, hcross, hbytecode, hmake, hensure⟩
  · refine ⟨.inl fun l => rfl, fun t hmake => ?_⟩
    obtain ⟨l, hl, hnone, -⟩ := makeDirectory_eq_ok.mp hmake
    exact entry?_of_absent hl hnone
  rcases hin : generateIn h config glslcc fxc (config.shaderDir.absolute h.path) (.ofText h.scratchPath)
    { w with tree := t1 } with ⟨failure | output, w1⟩
  · obtain ⟨t2, hremove, hleft, hgone⟩ := generateIn_fails hc hproper ht hcross hbytecode hmake hin
    rw [ensure_run hin (removeScratchDir_run hremove)] at hensure
    cases hensure
    exact ⟨hleft.imp_left fun hsame l => (hsame l).symm, fun _ _ => hgone⟩
  · obtain ⟨-, t2, -, -, -, hremove, -⟩ := generateIn_places hc hproper ht hcross hbytecode hmake hin
    rw [ensure_run hin (removeScratchDir_run hremove)] at hensure
    cases hensure

/-! Tools that write all the files that their command lines name, and a disk on another device which takes one byte of
the module. -/

/-- The three tools. The word at this place of a command line names the outputs of both compilers. -/
def scribe (here : Location) : Tools := fun _ argv t =>
  if argv.getD 1 "" = "--silent" then do
    let output := argv.getD 7 "" ++ "_" ++ (CrossCompiler.stageOfFlag (argv.getD 12 "")).outputSuffix
    let t1 ← t.writeFile here output (Text.toUtf8 "text")
    let t2 ← t1.writeFile here (output ++ ".json") (Text.toUtf8 "\x7b\x7d")
    return ({}, t2)
  else if argv.getD 1 "" = "/nologo" then do
    let t1 ← t.writeFile here (argv.getD 7 "") [1]
    return ({}, t1)
  else do
    let t1 ← t.writeFile here (argv.getD 2 "") (Text.toUtf8 "formatted")
    return ({}, t1)

def scribeConfig : Config := { package := "gpu", formatter := ["gofmt", "-w"], variants := [⟨"color", ""⟩] }

def scribeHost : Host :=
  { deadHost with
    tools := scribe deadHost.here
    disk := fun _ path _ => if path = "shaders.go" then some (1, ⟨28, "No space left on device"⟩) else none
    apart := true }

theorem confined_scribeHost : Confined scribeHost scribeConfig where
  cross n c path stage target t r t' ho := by
    have hrun : scribe deadHost.here n (c.command path stage target) t = (do
        let t1 ← t.writeFile deadHost.here (c.sourcePath stage) (Text.toUtf8 "text")
        let t2 ← t1.writeFile deadHost.here (c.reflectionPath stage) (Text.toUtf8 "\x7b\x7d")
        return ({}, t2)) := by
      unfold CrossCompiler.sourcePath CrossCompiler.reflectionPath
      simp only [Path.text_child_append]
      cases stage <;> rfl
    obtain ⟨t1, hfirst, ho⟩ := bind_eq_ok.mp (hrun.symm.trans ho)
    obtain ⟨t2, hsecond, ho⟩ := bind_eq_ok.mp ho
    cases ho
    exact (writesOnly_writeFile hfirst).trans (writesOnly_writeFile hsecond)
  bytecode n c entry profile t r t' ho := by
    obtain ⟨t1, hwrite, ho⟩ := bind_eq_ok.mp (show (t.writeFile deadHost.here c.outputPath [1] >>= _) = _ from ho)
    cases ho
    exact writesOnly_writeFile hwrite
  formatter n name options tool file t r t' hformatter ho := by
    cases hformatter
    obtain ⟨t1, hwrite, ho⟩ := bind_eq_ok.mp
      (show (t.writeFile deadHost.here file (Text.toUtf8 "formatted") >>= _) = _ from ho)
    cases ho
    exact writesOnly_writeFile hwrite

/-- A shader, and a module of an earlier run. -/
def scribeTree : Tree := deadTree.put ["w", "bin", "gofmt"] (.file [] true)

/-- The module of the earlier run is lost. -/
theorem generate_scribe : ∃ e w', generate scribeHost scribeConfig { tree := scribeTree } = (.error e, w') ∧
    CutShort scribeHost scribeConfig { tree := scribeTree } e w'.tree ∧
    scribeTree.get? ["w", "shaders.go"] = some (.file (Text.toUtf8 "old") false) ∧
    w'.tree.get? ["w", "shaders.go"] = some (.file (Text.toUtf8 "f") false) := by
  have hends : (generate scribeHost scribeConfig { tree := scribeTree }).1.toBool = false ∧
      (generate scribeHost scribeConfig { tree := scribeTree }).2.tree.get? ["w", "shaders.go"] =
        some (.file (Text.toUtf8 "f") false) := by
    decide +kernel
  rcases hg : generate scribeHost scribeConfig { tree := scribeTree } with ⟨e | output, w'⟩
  · rw [hg] at hends
    refine ⟨e, w', rfl, ?_, by decide +kernel, hends.2⟩
    refine (generate_atomic confined_scribeHost ⟨"shaders.go", rfl⟩ (by decide +kernel) hg).1.resolve_left fun hsame => ?_
    have hold := hsame ["w", "shaders.go"]
    rw [hends.2] at hold
    revert hold
    decide +kernel
  · rw [hg] at hends
    cases hends.1

end ShaderBundle
