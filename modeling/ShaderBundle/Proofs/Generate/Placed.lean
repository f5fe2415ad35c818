import ShaderBundle.Proofs.Files.Move
import ShaderBundle.Proofs.Generate.Confinement

/-!
# Where the module ends up

A run that succeeds gives the path of its configuration. The module is there if the path did not lead to a
directory: a directory takes the module in, under the same name, and stays what it was.

* `Produced`: what the module of a run holds.
* `Readied`: a module that is ready to be moved. `writeModule_moves`, `writeModule_error`: what becomes of it.
* `generate_places`: what has changed after a run, and where its module is.
-/

namespace ShaderBundle

open ShaderBundle.Action ShaderBundle.Tree

variable {h : Host} {config : Config}

/-! ## What a module holds -/

/-- What the formatter makes of a module that is written to a file. -/
inductive Formatted (h : Host) (config : Config) (t : Tree) (file : String) (source : Bytes) : Bytes → Prop
  | bare : config.formatter = [] → Formatted h config t file source source
  | formatted {name options tool n t1 r t2 content} : config.formatter = name :: options →
      t.writeFile h.here file source = .ok t1 → h.findTool? t1 name = some tool →
      h.start n (tool :: options ++ [file]) t1 = .ok (r, t2) → r.Succeeds →
      t2.readFile h.here file = .ok content → Formatted h config t file source content

/-- The module of a run that starts in this world: what is emitted for the records of the run, formatted. -/
def Produced (h : Host) (config : Config) (w : World) (content : Bytes) : Prop :=
  ∃ glslcc fxc t records w1 source, h.findTool? w.tree config.glslcc = some glslcc ∧
    h.findTool? w.tree config.hlslCompiler = some fxc ∧ w.tree.makeDirectory h.here h.scratchPath = .ok t ∧
    (generatorIn h config glslcc fxc (config.shaderDir.absolute h.path) (.ofText h.scratchPath)).run h
      { w with tree := t } = (.ok records, w1) ∧
    Go.emitModule config.package records = .ok source ∧
    Formatted h config w1.tree ((Path.ofText h.scratchPath).child config.output.name).text
      (Text.toUtf8 source) content

/-! ## Writing the module -/

variable {t0 : Tree} {s : Location} {p output : Path} {w w' : World} {source : String}

/-- What is left by the formatter where the module was is a file. -/
theorem formatted_of_formatModule {n : String} (hn : IsName n) (hs : Scratch t0 h.here p s)
    (hc : Confined h config) (hw : Within t0 s w.tree) {t : Tree} {bytes : Bytes}
    (hwrite : w.tree.writeFile h.here (p.child n).text bytes = .ok t)
    (hf : formatModule h config (p.child n).text { w with tree := t } = (.ok (), w'))
    (hleft : w'.tree.get? (s ++ [n]) ≠ none) :
    Within t0 s w'.tree ∧ ∃ content x, Formatted h config w.tree (p.child n).text bytes content ∧
      w'.tree.get? (s ++ [n]) = some (.file content x) := by
  have hwt : Within t0 s t := hs.within_file hw hn (writesOnly_writeFile hwrite)
  have hbytes : ∃ x, t.get? (s ++ [n]) = some (.file bytes x) := by
    obtain ⟨l, hl, -, rfl⟩ := writeFile_eq_ok.mp hwrite
    rw [hs.locate_child hw hn, Except.ok.injEq] at hl
    subst hl
    obtain ⟨x, hx⟩ := get?_written (t := w.tree) (l := s ++ [n]) (by simp) bytes (s ++ [n])
    exact ⟨x, by rw [hx, if_pos rfl]⟩
  obtain ⟨x, hx⟩ := hbytes
  rcases formatModule_ok hf with ⟨hnone, rfl⟩ | ⟨name, options, tool, k, r, hformatter, htool, hrun, hstatus⟩
  · exact ⟨hwt, bytes, x, .bare hnone, hx⟩
  · have honly := hc.formatter _ _ _ _ _ _ _ _ hformatter (Host.start_eq_ok.mp hrun).2
    have hw' := hs.within_file hwt hn honly
    have hfile : ∃ content x, w'.tree.get? (s ++ [n]) = some (.file content x) := by
      by_cases hsame : w'.tree.get? (s ++ [n]) = t.get? (s ++ [n])
      · exact ⟨bytes, x, hsame.trans hx⟩
      · obtain ⟨-, -, hd⟩ := honly _ hsame
        cases he : w'.tree.get? (s ++ [n]) with
        | none => exact absurd he hleft
        | some e =>
          cases e with
          | directory => exact absurd he hd
          | file content x' => exact ⟨content, x', rfl⟩
    obtain ⟨content, x', hx'⟩ := hfile
    refine ⟨hw', content, x', .formatted hformatter hwrite htool hrun hstatus ?_, hx'⟩
    exact readFile_eq_ok.mpr ⟨_, x', hs.locate_child hw' hn, hx'⟩

/-- A module has been written to the scratch directory and formatted there. -/
structure Readied (h : Host) (config : Config) (t0 : Tree) (s : Location) (p : Path) (t : Tree) (source : String)
    (t' : Tree) (content : Bytes) (x : Bool) : Prop where
  name : IsName config.output.name
  formatted : Formatted h config t (p.child config.output.name).text (Text.toUtf8 source) content
  within : Within t0 s t'
  file : t'.get? (s ++ [config.output.name]) = some (.file content x)

/-- What is reported of a module of which a part has been copied. -/
def Config.cutFailure (config : Config) (fault : Fault) (source place : String) : Failure :=
  .reported ⟨.file (.cannotWrite config.output.text (MoveFault.cut fault source place).message)
    (some config.output.text), none⟩

section
variable (hs : Scratch t0 h.here p s) (hup : t0.get? s.dropLast = some .directory) (hc : Confined h config)
  (ho : config.output.Proper) (hw : Within t0 s w.tree)
include hs hup hc ho hw

theorem readied_of_moveFile {t moved : Tree} {w1 : World}
    (hwrite : w.tree.writeFile h.here (p.join (.ofText config.output.name)).text (Text.toUtf8 source) = .ok t)
    (hformat : formatModule h config (p.join (.ofText config.output.name)).text { w with tree := t } = (.ok (), w1))
    (hmove : w1.tree.moveFile h.here (p.join (.ofText config.output.name)).text
      (p.join (.ofText config.output.name)).name config.output.text = .ok moved) :
    (∃ content x, Readied h config t0 s p w.tree source w1.tree content x) ∧
      w1.tree.moveFile h.here (p.child config.output.name).text config.output.name config.output.text = .ok moved := by
  have hn := isName_of_writeFile hs hup hw ho hwrite
  rw [Path.join_name p hn] at hwrite hformat hmove
  rw [Path.name_child] at hmove
  have hleft : w1.tree.get? (s ++ [config.output.name]) ≠ none := by
    have hw1 := keeps_formatModule hs hc hn { w with tree := t }
      (hs.within_file hw hn (writesOnly_writeFile hwrite))
    rw [hformat] at hw1
    obtain ⟨l, e, k, hl, he, -⟩ := moveFile_eq_ok hmove
    rw [hs.locate_child hw1 hn, Except.ok.injEq] at hl
    rw [hl, he]
    simp
  obtain ⟨hw1, content, x, hformatted, hfile⟩ := formatted_of_formatModule hn hs hc hw hwrite hformat hleft
  exact ⟨⟨content, x, hn, hformatted, hw1, hfile⟩, hmove⟩

theorem writeModule_moves (hm : writeModule h config source p w = (.ok output, w')) :
    output = config.output ∧ ∃ t content x, Readied h config t0 s p w.tree source t content x ∧
      t.moveFile h.here (p.child config.output.name).text config.output.name config.output.text = .ok w'.tree := by
  obtain ⟨rfl, -, -, t, w1, hwrite, hformat, hmove⟩ := writeModule_ok hm
  obtain ⟨⟨content, x, hready⟩, hmove⟩ := readied_of_moveFile hs hup hc ho hw hwrite hformat hmove
  exact ⟨rfl, w1.tree, content, x, hready, hmove⟩

/-- A module that is not moved stays in the scratch directory, and is all that has been written. The one exception is
a part of it, where it is copied and the disk does not take it all. -/
theorem writeModule_error {e : Failure} (hm : writeModule h config source p w = (.error e, w')) :
    Within t0 s w'.tree ∨ ∃ t content x moved n m fault source' place,
      Readied h config t0 s p w.tree source t content x ∧
      t.moveFile h.here (p.child config.output.name).text config.output.name config.output.text = .ok moved ∧
      place = t.destination h.here config.output.name config.output.text ∧
      h.apart = true ∧ h.disk n place content = some (m, fault) ∧
      t.writeFile h.here place (content.take m) = .ok w'.tree ∧
      e = config.cutFailure fault source' place := by
  unfold writeModule at hm
  rcases hsave : save h (p.join (.ofText config.output.name)).text source w with ⟨result, w1⟩
  have hsaves := saves_save h (p.join (.ofText config.output.name)).text source w
  rw [hsave] at hsaves
  cases hsaves with
  | crashed hu =>
    rw [bind_run_error hsave] at hm
    cases hm
    exact .inl hw
  | refused =>
    rw [bind_run_ok hsave] at hm
    cases hm
    exact .inl hw
  | cut _ _ _ hwrite =>
    have hn := isName_of_writeFile hs hup hw ho hwrite
    rw [Path.join_name p hn] at hwrite
    rw [bind_run_ok hsave] at hm
    cases hm
    exact .inl (hs.within_file hw hn (writesOnly_writeFile hwrite))
  | @done t _ _ _ hwrite =>
    have hn := isName_of_writeFile hs hup hw ho hwrite
    have hwt : Within t0 s t := by
      rw [Path.join_name p hn] at hwrite
      exact hs.within_file hw hn (writesOnly_writeFile hwrite)
    have hkept := keeps_formatModule hs hc hn { w with tree := t } hwt
    rw [← Path.join_name p hn] at hkept
    rw [bind_run_ok hsave] at hm
    rcases bind_error.mp hm with hformat | ⟨_, w2, hformat, hm⟩
    · rw [hformat] at hkept
      exact .inl hkept
    rw [hformat] at hkept
    have hplace := bind_pure_error hm
    rcases hmove : move h (p.join (.ofText config.output.name)).text (p.join (.ofText config.output.name)).name
      config.output.text w2 with ⟨result, w3⟩
    have hmoves := moves_move h (p.join (.ofText config.output.name)).text
      (p.join (.ofText config.output.name)).name config.output.text w2
    unfold placeModule at hplace
    rw [hmove] at hmoves
    cases hmoves with
    | crashed =>
      rw [bind_run_error hmove] at hplace
      cases hplace
      exact .inl hkept
    | refused =>
      rw [bind_run_ok hmove] at hplace
      cases hplace
      exact .inl hkept
    | done =>
      rw [bind_run_ok hmove] at hplace
      cases hplace
    | @cut content m fault t' moved hapart hread hmoved hdisk hpart =>
      rw [bind_run_ok hmove] at hplace
      cases hplace
      obtain ⟨⟨content', x, hready⟩, hmoved⟩ := readied_of_moveFile hs hup hc ho hw hwrite hformat hmoved
      rw [Path.join_name p hn] at hread hdisk hpart ⊢
      rw [Path.name_child] at hdisk hpart ⊢
      obtain ⟨l, x', hl, hfile⟩ := readFile_eq_ok.mp hread
      rw [hs.locate_child hready.within hn, Except.ok.injEq] at hl
      subst hl
      rw [hready.file] at hfile
      cases hfile
      exact .inr ⟨w2.tree, content, x, moved, _, m, fault, _, _, hready, hmoved, rfl, hapart, hdisk, hpart, rfl⟩

end

/-! ## The whole run -/

section
variable {t1 : Tree} {w1 : World} {glslcc fxc : String} (hc : Confined h config)
  (ho : config.output.Proper) (ht : w.tree.WellFormed) (hcross : h.findTool? w.tree config.glslcc = some glslcc)
  (hbytecode : h.findTool? w.tree config.hlslCompiler = some fxc)
  (hmake : w.tree.makeDirectory h.here h.scratchPath = .ok t1)
include hc ho ht hcross hbytecode hmake

/-- What is done in the scratch directory and succeeds. -/
theorem generateIn_places (hin : generateIn h config glslcc fxc (config.shaderDir.absolute h.path)
      (.ofText h.scratchPath) { w with tree := t1 } = (.ok output, w1)) :
    output = config.output ∧ ∃ t2 content x k,
      w1.tree.removeDirectory h.here (Path.ofText h.scratchPath).text = .ok t2 ∧ Produced h config w content ∧
      Placed w.tree t2 h.here output.text output.name (.file content x) k := by
  obtain ⟨records, w3, source, hrun, hemit, hwrite⟩ := generateIn_ok hin
  obtain ⟨s, -, hnone, hs, ht1, hsame⟩ := scratch_of_makeDirectory ht hmake
  have hup : t1.get? s.dropLast = some .directory := ht1.parent_directory (by simp [hs.directory])
  have hworks : (generatorIn h config glslcc fxc (config.shaderDir.absolute h.path)
      (.ofText h.scratchPath)).WorksIn h (.ofText h.scratchPath) := ⟨rfl, fxc, rfl⟩
  have hw3 := within_run hs hc hworks (w := { w with tree := t1 }) ht1.names hs.within
  rw [hrun] at hw3
  obtain ⟨rfl, t, content, x, hready, hmove⟩ := writeModule_moves hs hup hc ho hw3 hwrite
  have hworking : Working w.tree t1 h.here (.ofText h.scratchPath) s t := ⟨ht, hnone, hsame, hs, hready.within⟩
  -- with a last name, the path is that of a name in a directory
  obtain ⟨q, hq, hchild⟩ := Path.exists_child ho hready.name
  obtain ⟨t2, k, hremoved, hplaced⟩ := hworking.placed hq hready.name hready.file (by rwa [← hchild])
  rw [← hchild] at hplaced
  have hproduced : Produced h config w content :=
    ⟨glslcc, fxc, t1, records, w3, source, hcross, hbytecode, hmake, hrun, hemit, hready.formatted⟩
  exact ⟨rfl, t2, content, x, k, hremoved, hproduced, hplaced⟩

end

/-- A run that succeeds gives the path of its configuration, and the one thing that is new is what it has made.
This is at that path unless a directory was: then it is in the directory, and there is no file at the path. -/
theorem generate_places (hc : Confined h config) (ho : ∃ text, config.output = .ofText text)
    (ht : w.tree.WellFormed) (hg : generate h config w = (.ok output, w')) :
    output = config.output ∧ ∃ content x k, Produced h config w content ∧
      Placed w.tree w'.tree h.here output.text output.name (.file content x) k := by
  obtain ⟨text, htext⟩ := ho
  have hproper : config.output.Proper := htext ▸ Path.proper_ofText text
  obtain ⟨glslcc, fxc, t1, w1, w2, hcross, hbytecode, hmake, hin, hremove, htree⟩ := generate_ok hg
  obtain ⟨houtput, t2, content, x, k, hremoved, hproduced, hplaced⟩ :=
    generateIn_places hc hproper ht hcross hbytecode hmake hin
  rw [removeScratchDir_run hremoved] at hremove
  cases hremove
  rw [htree]
  exact ⟨houtput, content, x, k, hproduced, hplaced⟩

/-! A host none of whose tools can be started. -/

def deadHost : Host where
  here := ["w"]
  toolPath := ["/w/bin"]
  scratchRoot := "/w/tmp"
  scratchName := "convert"
  tools := fun _ argv _ => .error ⟨.missing, argv.headD ""⟩

/-- A shader, and a module of an earlier run. -/
def deadTree : Tree :=
  ⟨[(["w"], .directory), (["w", "bin"], .directory), (["w", "bin", "glslcc"], .file [] true),
    (["w", "bin", "fxc"], .file [] true), (["w", "tmp"], .directory), (["w", "shaders"], .directory),
    (["w", "shaders", "a.vert"], .file (Text.toUtf8 "x") false),
    (["w", "shaders.go"], .file (Text.toUtf8 "old") false)]⟩

theorem confined_deadHost (config : Config) : Confined deadHost config where
  cross := fun _ _ _ _ _ _ _ _ h => nomatch h
  bytecode := fun _ _ _ _ _ _ _ h => nomatch h
  formatter := fun _ _ _ _ _ _ _ _ _ h => nomatch h

/-! A run without shaders, with a directory where the module should go. -/

def takenTree : Tree :=
  ⟨[(["w"], .directory), (["w", "bin"], .directory), (["w", "bin", "glslcc"], .file [] true),
    (["w", "bin", "fxc"], .file [] true), (["w", "tmp"], .directory), (["w", "shaders"], .directory),
    (["w", "shaders.go"], .directory)]⟩

theorem generate_takenTree : ∃ output w',
    generate deadHost { package := "gpu", formatter := [] } { tree := takenTree } = (.ok output, w') ∧
      w'.tree.isFile deadHost.here output.text = false ∧
      ∃ content x, w'.tree.get? ["w", "shaders.go", "shaders.go"] = some (.file content x) := by
  have hsucceeds :
      (generate deadHost { package := "gpu", formatter := [] } { tree := takenTree }).1.toBool = true := by
    decide +kernel
  rcases hg : generate deadHost { package := "gpu", formatter := [] } { tree := takenTree } with ⟨_ | output, w'⟩
  · rw [hg] at hsucceeds
    cases hsucceeds
  · obtain ⟨rfl, content, x, k, -, hplaced⟩ :=
      generate_places (confined_deadHost _) ⟨"shaders.go", rfl⟩ (by decide +kernel) hg
    have hlocate : takenTree.locate deadHost.here (Path.ofText "shaders.go").text = .ok ["w", "shaders.go"] :=
      rfl
    have hdirectory : takenTree.get? ["w", "shaders.go"] = some .directory := by decide
    obtain ⟨rfl, -, hfile⟩ := hplaced.taken_in _ hlocate hdirectory
    refine ⟨_, w', rfl, ?_, content, x, hfile⟩
    rw [Bool.eq_false_iff, ne_eq, hplaced.isFile]
    rintro ⟨l, hl, hd⟩
    cases hlocate.symm.trans hl
    exact hd hdirectory

end ShaderBundle
