import ShaderBundle.Proofs.Files.Move
import ShaderBundle.Proofs.Generate.Craft
import ShaderBundle.Proofs.Tools.Lookup

/-!
# What makes a run succeed

Where a disk takes all that is written, a run of tools that do not know where they work succeeds if and only if its
tools are found, its scratch directory can be made, records are made of the shaders, they can be emitted, the module
can be written, the formatter leaves something of it, and there is no directory in its place.

* `Craft.Finishes`: what the formatter leaves.
* `Made`: what is made in a run. `Finished`: a tree in which it has been put at its place.
* `made_of_generate`, `generate_of_made`: a run that succeeds, and when one does.
-/

namespace ShaderBundle

open ShaderBundle.Action ShaderBundle.Tree Generator

/-- What is made of the text of a module, with a tool that is looked up: a text, and whether its file is executable. -/
inductive Craft.Finishes (k : Craft) (config : Config) (find : String → Option String) (source : Bytes) :
    Bytes → Bool → Prop
  | bare : config.formatter = [] → Finishes k config find source source false
  | formatted {name options tool r content x} : config.formatter = name :: options → find name = some tool →
      k.format options source = .ok (r, some (content, x)) → r.Succeeds →
      Finishes k config find source content x

/-- What is made in a run in this tree, with the tree in which the scratch directory has just been made. -/
structure Made (k : Craft) (h : Host) (config : Config) (t t1 : Tree) (glslcc fxc : String)
    (records : List ShaderRecord) (source : String) (content : Bytes) (x : Bool) : Prop where
  cross : h.findTool? t config.glslcc = some glslcc
  bytecode : h.findTool? t config.hlslCompiler = some fxc
  directory : t.isDirectory h.here (config.shaderDir.absolute h.path).text = true
  scratch : t.makeDirectory h.here h.scratchPath = .ok t1
  recorded : k.Makes config (config.crossCompiler h glslcc) (h.bytecodeCompiler fxc) t1 h.here records
  emitted : Go.emitModule config.package records = .ok source
  writable : Text.Writable source
  plain : isPlain config.output.text = true
  finished : k.Finishes config (h.findTool? t1) (Text.toUtf8 source) content x

variable {k : Craft} {h : Host} {config : Config} {w w' : World} {t0 t t1 : Tree} {s l : Location} {p output : Path}
variable {n source glslcc fxc : String} {bytes content : Bytes} {x : Bool} {records : List ShaderRecord}
variable {find find' : String → Option String}

/-! ## Formatting -/

/-- What is made of a module depends on which formatter is found. -/
theorem Craft.Finishes.of_found (hf : k.Finishes config find bytes content x)
    (h : ∀ name ∈ config.formatter.head?, ∀ tool, find name = some tool → find' name = some tool) :
    k.Finishes config find' bytes content x := by
  cases hf with
  | bare hnone => exact .bare hnone
  | formatted hformatter htool hformat hsucceeds =>
    exact .formatted hformatter (h _ (by rw [hformatter]; rfl) _ htool) hformat hsucceeds

theorem Craft.Finishes.of_bare (hf : k.Finishes config find bytes content x) (hnone : config.formatter = []) :
    content = bytes ∧ x = false := by
  cases hf with
  | bare => exact ⟨rfl, rfl⟩
  | formatted hformatter =>
    rw [hnone] at hformatter
    cases hformatter

/-- What is left of a module has been finished. -/
theorem formatModule_finishes {file : String} {u : Unit} (hk : Crafted h config k)
    (hl : w.tree.locate h.here file = .ok l) (hfile : w.tree.get? l = some (.file bytes false))
    (hf : formatModule h config file w = (.ok u, w')) :
    ∃ left : Option (Bytes × Bool), w.tree.SetAt l (left.map fun file => .file file.1 file.2) w'.tree ∧
      ∀ content x, left = some (content, x) → k.Finishes config (h.findTool? w.tree) bytes content x := by
  rcases formatModule_ok hf with ⟨hnone, rfl⟩ | ⟨name, options, tool, i, r, hformatter, htool, hrun, hsucceeds⟩
  · refine ⟨some (bytes, false), .of_eq hfile, fun content x heq => ?_⟩
    cases heq
    exact .bare hnone
  · cases hformat : k.format options bytes with
    | error e =>
      rw [hk.format_error i name options tool _ file l bytes e hformatter htool hl hfile hformat] at hrun
      cases hrun
    | ok out =>
      obtain ⟨r', left⟩ := out
      obtain ⟨t', hrun', hset⟩ := hk.format_ok i name options tool _ file l bytes r' left hformatter htool hl hfile hformat
      cases hrun.symm.trans hrun'
      refine ⟨left, hset, fun content x heq => ?_⟩
      cases heq
      exact .formatted hformatter htool hformat hsucceeds

theorem yields_formatModule {file : String} (hk : Crafted h config k) {I J : Tree → Prop}
    (hf : k.Finishes config find bytes content x)
    (hfind : ∀ t, I t → ∀ name ∈ config.formatter.head?, ∀ tool, find name = some tool → h.findTool? t name = some tool)
    (hfile : ∀ t, I t → t.locate h.here file = .ok l ∧ t.get? l = some (.file bytes false))
    (hset : ∀ t t', I t → t.SetAt l (some (.file content x)) t' → J t') : Yields I J (formatModule h config file) () := by
  unfold formatModule
  cases hf with
  | bare hnone =>
    rw [hnone]
    exact (Yields.pure ()).mono (fun t ht => ht) fun t ht => hset t t ht (.of_eq (hfile t ht).2)
  | @formatted name options tool r _ _ hformatter htool hformat hsucceeds =>
    obtain ⟨report, hread, hstatus⟩ := hsucceeds
    rw [hformatter]
    have hhead : name ∈ config.formatter.head? := by
      rw [hformatter]
      rfl
    have hrun : Yields I J (Action.run h (tool :: options ++ [file])) (.ok report) := by
      refine Yields.run hread fun i t ht => ?_
      obtain ⟨t', hrun, ht'⟩ := hk.format_ok i name options tool t file l bytes r _ hformatter
        (hfind t ht name hhead tool htool) (hfile t ht).1 (hfile t ht).2 hformat
      exact ⟨t', hrun, hset t t' ht ht'⟩
    refine (Yields.resolveTool fun t ht => hfind t ht name hhead tool htool).bind (hrun.bind ?_)
    dsimp only
    rw [if_neg (not_not_intro hstatus)]
    exact .pure ()

/-! ## In the scratch directory -/

/-- A change of a file in the scratch directory. -/
theorem Tree.Within.setAt {e : Option Entry} (hw : Within t0 s t) {t' : Tree} (ht : t.SetAt (s ++ [n]) e t') :
    Within t0 s t' := by
  refine hw.changed fun l hl => ?_
  have hl : l = s ++ [n] := by
    by_contra hne
    exact hl (ht.elsewhere hne)
  rw [hl]
  exact ⟨List.prefix_append s [n], by simp⟩

/-- Files of a scratch directory are not found as tools. -/
theorem findTool?_holds (hs : Scratch t0 h.here p s) {files : Files} (hf : Holds t0 s files t) (name : String) :
    h.findTool? t name = h.findTool? t0 name :=
  (findTool?_congr (fun _ => isExecutable_adds (hs.holds_iff_adds.mp hf)) name).symm

section
variable (hk : Crafted h config k) (hs : Scratch t0 h.here p s)
include hk hs

/-- A module that has been written is finished, and moved from the scratch directory. -/
theorem writeModule_finishes (hup : t0.get? s.dropLast = some .directory) (ho : config.output.Proper)
    (hw : Holds t0 s noFiles w.tree) (hm : writeModule h config source p w = (.ok output, w')) :
    output = config.output ∧ IsName config.output.name ∧ Text.Writable source ∧ isPlain config.output.text = true ∧
      ∃ t content x, k.Finishes config (h.findTool? t0) (Text.toUtf8 source) content x ∧ Within t0 s t ∧
      t.get? (s ++ [config.output.name]) = some (.file content x) ∧
      t.moveFile h.here (p.child config.output.name).text config.output.name config.output.text = .ok w'.tree := by
  obtain ⟨rfl, hwritable, hplain, t, w1, hwrite, hformat, hmove⟩ := writeModule_ok hm
  have hn := isName_of_writeFile hs hup (hs.within_holds hw) ho hwrite
  rw [Path.join_name p hn] at hwrite hformat hmove
  rw [Path.name_child] at hmove
  obtain ⟨t', hwrite', hf⟩ := hs.writeFile hw hn (Text.toUtf8 source)
  cases hwrite.symm.trans hwrite'
  have hwithin := hs.within_holds hf
  have hfile : t.get? (s ++ [config.output.name]) = some (.file (Text.toUtf8 source) false) := by
    rw [hf.files, Function.update_self]
    rfl
  obtain ⟨left, hset, hfinished⟩ := formatModule_finishes hk (hs.locate_child hwithin hn) hfile hformat
  have hwithin1 := hwithin.setAt hset
  -- what is moved has been left by the formatter
  obtain ⟨l, e, k, hl, he, -⟩ := moveFile_eq_ok hmove
  rw [hs.locate_child hwithin1 hn, Except.ok.injEq] at hl
  rw [← hl, hset.there] at he
  cases left with
  | none => cases he
  | some found =>
    refine ⟨rfl, hn, hwritable, hplain, w1.tree, found.1, found.2, ?_, hwithin1, hset.there, hmove⟩
    refine (hfinished _ _ rfl).of_found fun name _ tool => ?_
    rw [findTool?_holds hs hf]
    exact id

/-- Where it can be finished and moved, it is. -/
theorem yields_writeModule (hroom : h.Roomy p) (hwritable : Text.Writable source)
    (hplain : isPlain config.output.text = true) (hname : isPlain config.output.name = true)
    (hn : IsName config.output.name)
    (hf : k.Finishes config (h.findTool? t0) (Text.toUtf8 source) content x) {J : Tree → Prop}
    (hmove : ∀ t, Within t0 s t → t.get? (s ++ [config.output.name]) = some (.file content x) →
      ∃ t', t.moveFile h.here (p.child config.output.name).text config.output.name config.output.text = .ok t' ∧ J t') :
    Yields (Holds t0 s noFiles) J (writeModule h config source p) config.output := by
  have hwritten (t : Tree) (ht : Holds t0 s (Function.update noFiles config.output.name (some (Text.toUtf8 source))) t) :
      t.locate h.here (p.child config.output.name).text = .ok (s ++ [config.output.name]) ∧
        t.get? (s ++ [config.output.name]) = some (.file (Text.toUtf8 source) false) := by
    refine ⟨hs.locate_child (hs.within_holds ht) hn, ?_⟩
    rw [ht.files, Function.update_self]
    rfl
  have hformat : Yields (Holds t0 s (Function.update noFiles config.output.name (some (Text.toUtf8 source))))
      (fun t => Within t0 s t ∧ t.get? (s ++ [config.output.name]) = some (.file content x))
      (formatModule h config (p.child config.output.name).text) () := by
    refine yields_formatModule hk hf (fun t ht name _ tool htool => ?_) hwritten fun t t' ht hset => ?_
    · rwa [findTool?_holds hs ht]
    · exact ⟨(hs.within_holds ht).setAt hset, hset.there⟩
  have hplace : Yields (fun t => Within t0 s t ∧ t.get? (s ++ [config.output.name]) = some (.file content x)) J
      (placeModule h (p.child config.output.name) config.output) () := by
    intro w hw
    obtain ⟨t', ht', hJ⟩ := hmove w.tree hw.1 hw.2
    refine ⟨{ w with tree := t' }, ?_, hJ⟩
    unfold placeModule
    rw [Path.name_child, bind_run_ok (move_run hplain hroom.whole ht')]
    rfl
  unfold writeModule
  rw [Path.join_name p hn]
  refine (Yields.save hwritable (hroom.takes hname) fun t hw => hs.writeFile hw hn (Text.toUtf8 source)).bind ?_
  exact hformat.bind (hplace.bind (.pure _))

end

/-! ## The whole run -/

section
variable (hk : Crafted h config k) (ho : config.output.Proper) (ht : w.tree.WellFormed)
include hk ho ht

/-- What is made in a run that succeeds, and where the module is then. -/
theorem made_of_generate (hg : generate h config w = (.ok output, w')) :
    output = config.output ∧ IsName config.output.name ∧ ∃ t1 glslcc fxc records source content x j,
      Made k h config w.tree t1 glslcc fxc records source content x ∧
      Placed w.tree w'.tree h.here config.output.text config.output.name (.file content x) j := by
  obtain ⟨glslcc, fxc, t1, w1, w2, hcross, hbytecode, hmake, hin, hremove, htree⟩ := generate_ok hg
  obtain ⟨records, w3, source, hrun, hemit, hwrite⟩ := generateIn_ok hin
  obtain ⟨s, -, hnone, hs, ht1, hsame⟩ := scratch_of_makeDirectory ht hmake
  have hup : t1.get? s.dropLast = some .directory := ht1.parent_directory (by simp [hs.directory])
  obtain ⟨b, hb, hcraft⟩ := hk.converts w.tree glslcc fxc hcross hbytecode
  obtain ⟨hmakes, hclean⟩ := run_makes (w := { w with tree := t1 }) hs ht1 hb hcraft rfl rfl rfl hrun
  obtain ⟨rfl, hn, hwritable, hplain, t, content, x, hfinished, hwithin, hfile, hmove⟩ :=
    writeModule_finishes hk hs hup ho hclean hwrite
  have hworking : Working w.tree t1 h.here (.ofText h.scratchPath) s t := ⟨ht, hnone, hsame, hs, hwithin⟩
  obtain ⟨q, hq, hchild⟩ := Path.exists_child ho hn
  obtain ⟨t2, j, hremoved, hplaced⟩ := hworking.placed hq hn hfile (by rwa [← hchild])
  rw [removeScratchDir_run hremoved] at hremove
  cases hremove
  rw [← hchild] at hplaced
  rw [htree]
  exact ⟨rfl, hn, t1, glslcc, fxc, records, source, content, x, j,
    ⟨hcross, hbytecode, isDirectory_of_generate hg, hmake, hmakes, hemit, hwritable, hplain,
      hfinished⟩, hplaced⟩

/-- The tree is that of a run before its scratch directory is removed: what is left is the tree before the run, with
the module at its place. -/
def Finished (h : Host) (t0 : Tree) (l : Location) (content : Bytes) (x : Bool) (t : Tree) : Prop :=
  ∃ t', t.removeDirectory h.here (Path.ofText h.scratchPath).text = .ok t' ∧ t0.SetAt l (some (.file content x)) t'

variable (hroom : h.Roomy (.ofText h.scratchPath)) (hn : IsName config.output.name)
  (hm : Made k h config w.tree t1 glslcc fxc records source content x)
  (hl : w.tree.locate h.here config.output.text = .ok l) (hd : w.tree.get? l ≠ some .directory)
  (hapart : w.tree.locate h.here h.scratchPath ≠ .ok l)
include hroom hn hm hl hd hapart

/-- Where all this is made and can be written, and no directory is in the place of the module, the module is written. -/
theorem yields_generateIn : Yields (· = t1) (Finished h w.tree l content x)
    (generateIn h config glslcc fxc (config.shaderDir.absolute h.path) (.ofText h.scratchPath)) config.output := by
  obtain ⟨s, hscratch, hnone, hs, ht1, hsame⟩ := scratch_of_makeDirectory ht hm.scratch
  obtain ⟨b, hb, hcraft⟩ := hk.converts w.tree glslcc fxc hm.cross hm.bytecode
  obtain ⟨q, hq, hchild⟩ := Path.exists_child ho hn
  have hls : l ≠ s := by
    rintro rfl
    exact hapart hscratch
  have hname : isPlain config.output.name = true := by
    have hplain := hm.plain
    rw [hchild, isPlain_child, Bool.and_eq_true] at hplain
    exact hplain.2
  have hwrite : Yields (Holds t1 s noFiles) (Finished h w.tree l content x)
      (writeModule h config source (.ofText h.scratchPath)) config.output := by
    refine yields_writeModule hk hs hroom hm.writable hm.plain hname hn hm.finished fun t hwithin hfile => ?_
    have hworking : Working w.tree t1 h.here (.ofText h.scratchPath) s t := ⟨ht, hnone, hsame, hs, hwithin⟩
    have hmove := hworking.moveFile_file hn hfile hl hd hls
    obtain ⟨t2, j, hremoved, hplaced⟩ := hworking.placed hq hn hfile (by rwa [← hchild])
    rw [← hchild] at hplaced
    obtain ⟨rfl, hput⟩ := hplaced.replaced l hl hd
    refine ⟨_, hmove, t2, hremoved, fun m => ?_⟩
    split
    · next hm => rw [hm, hput]
    · next hm => exact hplaced.others m hm
  have hrun : Yields (· = t1) (Holds t1 s noFiles)
      ((generatorIn h config glslcc fxc (config.shaderDir.absolute h.path) (.ofText h.scratchPath)).run h) records := by
    rintro w1 rfl
    exact run_of_makes hs ht1 hb hcraft rfl rfl rfl hroom hm.recorded
  refine hrun.bind ?_
  rw [hm.emitted]
  exact hwrite

/-- Then a run succeeds, and changes nothing else. -/
theorem generate_of_made :
    ∃ w', generate h config w = (.ok config.output, w') ∧ w.tree.SetAt l (some (.file content x)) w'.tree := by
  have hmake : Yields (· = w.tree) (· = t1) (makeScratch h) (.ofText h.scratchPath) := by
    intro w1 hw1
    exact ⟨_, makeScratch_ok (by rw [hw1, hm.scratch]), rfl⟩
  have hremove : Yields (Finished h w.tree l content x) (w.tree.SetAt l (some (.file content x)))
      (removeScratchDir h (.ofText h.scratchPath)) () := by
    rintro w1 ⟨t2, hremoved, hset⟩
    exact ⟨_, removeScratchDir_run hremoved, hset⟩
  have hin := yields_generateIn hk ho ht hroom hn hm hl hd hapart
  have hwhole : Yields (· = w.tree) (w.tree.SetAt l (some (.file content x))) (generate h config) config.output := by
    unfold generate
    refine (Yields.resolveTool fun t ht => ht ▸ hm.cross).bind ?_
    refine (Yields.resolveTool fun t ht => ht ▸ hm.bytecode).bind ?_
    refine Yields.get_bind fun w1 hw1 => ?_
    rw [hw1, hm.directory]
    exact hmake.bind ((hin.ensure hremove).bind ((Yields.log _ _).bind (.pure _)))
  exact hwhole w rfl

end

end ShaderBundle
