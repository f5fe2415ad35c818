import ShaderBundle.Proofs.Generate.Discovery
import ShaderBundle.Proofs.Generate.Stages
import ShaderBundle.Proofs.Tools.Bytecode

/-!
# Confinement

As long as its tools write only the files that their command lines name, a run changes nothing outside of its
scratch directory before the module is moved to its place.

* `Confined`: what tools may change.
* `within_run`: converting all shaders stays within the scratch directory.
* `keeps_formatModule`: so does formatting the module.
-/

namespace ShaderBundle

/-- Each run of a tool writes the files that its command line names for output, or some of them, and no
other: two for the cross compiler, one for the bytecode compiler, and the last argument for the formatter. -/
structure Confined (h : Host) (config : Config) : Prop where
  cross : ∀ n (c : CrossCompiler) path stage target t r t',
    h.tools n (c.command path stage target) t = .ok (r, t') →
      t.WritesOnly h.here [c.sourcePath stage, c.reflectionPath stage] t'
  bytecode : ∀ n (c : Bytecode.Fxc) entry profile t r t',
    h.tools n (c.command entry profile) t = .ok (r, t') → t.WritesOnly h.here [c.outputPath] t'
  formatter : ∀ n name options tool file t r t', config.formatter = name :: options →
    h.tools n (tool :: options ++ [file]) t = .ok (r, t') → t.WritesOnly h.here [file] t'

open ShaderBundle.Action ShaderBundle.Tree

variable {h : Host} {config : Config} {t0 : Tree} {s : Location} {p : Path}

/-! ## Files in the scratch directory -/

section
variable (hs : Scratch t0 h.here p s)
include hs

theorem keeps_save {n : String} (hn : IsName n) (text : String) :
    Keeps (Within t0 s) (Action.save h (p.child n).text text) :=
  Keeps.save (fun _ _ _ hw ho => hs.within_file hw hn (writesOnly_writeFile ho)) text

theorem keeps_attempt_removeFile {n : String} (hn : IsName n) :
    Keeps (Within t0 s) (attempt (·.removeFile h.here (p.child n).text)) :=
  Keeps.attempt fun _ _ hw ho =>
    hs.within_file hw hn (writesOnly_removeFile ho)

theorem keeps_discard {n : String} (hn : IsName n) : Keeps (Within t0 s) (discard h (p.child n).text) :=
  (keeps_attempt_removeFile hs hn).bind fun _ => Keeps.pure _

theorem keeps_removeScratch {n : String} (hn : IsName n) :
    Keeps (Within t0 s) (Shader.removeScratch h (p.child n).text) :=
  Keeps.clear fun _ _ hw ho => hs.within_file hw hn (writesOnly_removeFile ho)

end

/-! ## The tools -/

theorem keeps_stageOf {I : Tree → Prop} (path : String) : Keeps I (CrossCompiler.stageOf path) := by
  unfold CrossCompiler.stageOf
  split
  · exact Keeps.pure _
  · exact Keeps.fail _

theorem keeps_takeOutputs (hs : Scratch t0 h.here p s) {c : CrossCompiler} (hp : c.scratch = p) (path : String)
    (stage : Stage) (target : Target) : Keeps (Within t0 s) (c.takeOutputs h path stage target) := by
  subst hp
  unfold CrossCompiler.takeOutputs
  refine Keeps.ensure ?_ ?_
  · refine Keeps.get.bind fun w => ?_
    split
    · exact Keeps.pure _
    · exact Keeps.fail _
  · exact (keeps_discard hs (isName_source stage)).bind fun _ => keeps_discard hs (isName_reflection stage)

theorem keeps_convert (hs : Scratch t0 h.here p s) (hc : Confined h config) {c : CrossCompiler}
    (hp : c.scratch = p) (path : String) (target : Target) : Keeps (Within t0 s) (c.convert h path target) := by
  unfold CrossCompiler.convert
  refine (keeps_stageOf path).bind fun stage => ?_
  refine (Keeps.run fun n t r t' hw ho => ?_).bind fun r => ?_
  · refine hs.within_writesOnly hw ?_ (hc.cross _ _ _ _ _ _ _ _ ho)
    subst hp
    simp only [List.forall_mem_cons]
    exact ⟨⟨_, isName_source stage, rfl⟩, ⟨_, isName_reflection stage, rfl⟩, by simp⟩
  · cases r with
    | error e => exact Keeps.fail _
    | ok result =>
      refine (Keeps.logWords _ _).bind fun _ => ?_
      split
      · exact (Keeps.logWords _ _).bind fun _ => Keeps.fail _
      · exact (Keeps.logWords _ _).bind fun _ => keeps_takeOutputs hs hp path stage target

theorem Keeps.onRejection {α : Type} {I : Tree → Prop} {body : Action α} {handler : Failure → String → Action α}
    (hb : Keeps I body) (hh : ∀ f words, Keeps I (handler f words)) : Keeps I (Bytecode.onRejection body handler) :=
  Bytecode.leads_onRejection (R := Kept I) hb hh Kept.trans

theorem keeps_compile {I : Tree → Prop} {compiler : BytecodeCompiler}
    (hk : ∀ source entry profile, Keeps I (compiler source entry profile)) (source : String) (stage : Stage)
    (entry : String) : Keeps I (Bytecode.compile compiler source stage entry) := by
  unfold Bytecode.compile
  refine Keeps.onRejection (hk _ _ _) fun _ words => ?_
  refine (Keeps.log _ _).bind fun _ => (Keeps.logWords _ _).bind fun _ => ?_
  exact Keeps.onRejection (hk _ _ _) fun f words => (Keeps.logWords _ _).bind fun _ => Keeps.throw f

theorem keeps_fxc (hs : Scratch t0 h.here p s) (hc : Confined h config) {c : Bytecode.Fxc} (hp : c.scratch = p)
    (source entry profile : String) : Keeps (Within t0 s) (c.compile h source entry profile) := by
  subst hp
  unfold Bytecode.Fxc.compile
  refine (keeps_save hs isName_hlsl _).bind fun r => ?_
  cases r with
  | error e => exact Keeps.fail _
  | ok u =>
    refine Keeps.ensure ?_ ((keeps_discard hs isName_hlsl).bind fun _ => keeps_discard hs isName_cso)
    unfold Bytecode.Fxc.runTool
    refine (Keeps.run fun n t r t' hw ho => ?_).bind fun r => ?_
    · exact hs.within_file hw isName_cso (hc.bytecode _ _ _ _ _ _ _ ho)
    · cases r with
      | error e => exact Keeps.fail _
      | ok result =>
        dsimp only
        split
        · exact Keeps.fail _
        · refine (Keeps.ask _).bind fun found => ?_
          split
          · exact Keeps.pure _
          · exact Keeps.fail _

/-! ## Conversion -/

theorem keeps_withRendered {α : Type} (hs : Scratch t0 h.here p s) (directory : Path) {n : String} (hn : IsName n)
    (args : VariantArgs) {body : Path → Action α} (hb : ∀ file, Keeps (Within t0 s) (body file)) :
    Keeps (Within t0 s) (Shader.withRendered h (directory.child n).text args p body) := by
  unfold Shader.withRendered
  rw [Shader.scratchFile_child directory p hn]
  refine Keeps.bind ?_ fun text => (keeps_save hs hn _).bind fun r => ?_
  · unfold Shader.render
    refine Keeps.get.bind fun w => ?_
    split
    · exact Keeps.pure _
    · exact Keeps.throw _
  · cases r with
    | error e => exact Keeps.fail _
    | ok u => exact (Keeps.log _ _).bind fun _ => (hb _).ensure (keeps_removeScratch hs hn)

/-- A generator all of whose files are in the scratch directory. -/
structure Generator.WorksIn (g : Generator) (h : Host) (p : Path) : Prop where
  cross : g.crossCompiler.scratch = p
  bytecode : ∃ tool, g.bytecodeCompiler = (⟨tool, p⟩ : Bytecode.Fxc).compile h

variable {g : Generator}

theorem keeps_translate (hs : Scratch t0 h.here p s) (hc : Confined h config) (hg : g.WorksIn h p)
    (file : String) (v : VariantSources) (target : Target) : Keeps (Within t0 s) (g.translate h file v target) := by
  unfold Generator.translate
  refine (keeps_convert hs hc hg.cross file target).bind fun ⟨text, document⟩ => ?_
  dsimp only
  split
  · refine Keeps.bind ?_ fun r => Keeps.pure _
    unfold Generator.reflect
    split
    · exact Keeps.crash _
    · split
      · exact (Keeps.log _ _).bind fun _ => Keeps.pure _
      · exact Keeps.fail _
  · exact Keeps.pure _

theorem keeps_convertVariant (hs : Scratch t0 h.here p s) (hc : Confined h config) (hg : g.WorksIn h p)
    (directory : Path) {n : String} (hn : IsName n) (args : VariantArgs) :
    Keeps (Within t0 s) (g.convertVariant h (directory.child n) args) := by
  obtain ⟨tool, hbytecode⟩ := hg.bytecode
  have hcross := hg.cross
  unfold Generator.convertVariant
  rw [hcross, hbytecode]
  refine (keeps_stageOf _).bind fun stage => ?_
  refine (keeps_withRendered hs directory hn args fun file => ?_).bind fun v => ?_
  · exact Keeps.foldlM fun v target => keeps_translate hs hc hg file.text v target
  · exact (keeps_compile (keeps_fxc hs hc rfl) _ _ _).bind fun _ => Keeps.pure _

theorem keeps_convertShader (hs : Scratch t0 h.here p s) (hc : Confined h config) (hg : g.WorksIn h p)
    (directory : Path) {n : String} (hn : IsName n) :
    Keeps (Within t0 s) (g.convertShader h (directory.child n)) := by
  unfold Generator.convertShader
  refine Keeps.bind ?_ fun variants => (Keeps.log _ _).bind fun _ => Keeps.pure _
  exact Keeps.mapM fun ⟨args, i⟩ _ => (keeps_convertVariant hs hc hg directory hn args).inContext

/-- The shaders are those of the tree that the conversion starts with. -/
theorem within_run (hs : Scratch t0 h.here p s) (hc : Confined h config) (hg : g.WorksIn h p) {w : World}
    (hn : ∀ l, w.tree.get? l ≠ none → ∀ n ∈ l, IsName n) (hw : Within t0 s w.tree) :
    Within t0 s (g.run h w).2.tree := by
  unfold Generator.run
  rw [bind_run]
  rcases hd : g.discover h w with ⟨r, w1⟩
  have hw1 : w1 = w := by
    have := Generator.discover_run g h w
    rw [hd] at this
    exact congrArg Prod.snd this
  subst hw1
  cases r with
  | error e => exact hw
  | ok shaders =>
    have hnames := Generator.isName_of_discover_ok hn hd
    refine (Keeps.log _ _).bind (fun _ => Keeps.mapM fun path hpath => ?_) w1 hw
    obtain ⟨n, hname, rfl⟩ := hnames path hpath
    exact keeps_convertShader hs hc hg g.config.shaderDir hname

/-! ## The module -/

theorem keeps_resolveTool {I : Tree → Prop} (name : String) : Keeps I (resolveTool h name) := by
  unfold resolveTool
  refine Keeps.get.bind fun w => ?_
  split
  · exact Keeps.pure _
  · exact Keeps.fail _

theorem keeps_formatModule (hs : Scratch t0 h.here p s) (hc : Confined h config) {n : String} (hn : IsName n) :
    Keeps (Within t0 s) (formatModule h config (p.child n).text) := by
  unfold formatModule
  split
  · exact Keeps.pure _
  · next name options hf =>
    refine (keeps_resolveTool name).bind fun tool => ?_
    refine (Keeps.run fun i t r t' hw ho => ?_).bind fun r => ?_
    · exact hs.within_file hw hn (hc.formatter _ _ _ _ _ _ _ _ hf ho)
    · cases r with
      | error e => exact Keeps.fail _
      | ok result =>
        dsimp only
        split
        · exact (Keeps.logWords _ _).bind fun _ => Keeps.fail _
        · exact Keeps.pure _

/-- The last name of a path is a name, unless there is none or it leads up. -/
theorem name_of_proper {q : Path} (hq : q.Proper) : q.name = "" ∨ q.name = ".." ∨ IsName q.name := by
  unfold Path.name
  cases hl : q.parts.getLast? with
  | none =>
    left
    rw [List.getLastD_eq_getLast?, hl]
    rfl
  | some n =>
    right
    obtain ⟨hpart, hslash⟩ := hq n (List.mem_of_getLast? hl)
    rw [List.getLastD_eq_getLast?, hl, Option.getD_some]
    by_cases hup : n = ".."
    · exact .inl hup
    · exact .inr ⟨hpart, hup, hslash⟩

/-- A module without a name of its own would have to replace a directory. -/
theorem writeFile_unnamed (hs : Scratch t0 h.here p s) (hup : t0.get? s.dropLast = some .directory) {t : Tree}
    (hw : Within t0 s t) {n : String} (hn : n = "" ∨ n = "..") (content : Bytes) (t' : Tree) :
    t.writeFile h.here (p.join (.ofText n)).text content ≠ .ok t' := by
  intro ho
  obtain ⟨l, hl, hd, -⟩ := writeFile_eq_ok.mp ho
  refine hd ?_
  rcases hn with rfl | rfl
  · have hjoin : p.join (.ofText "") = p := by
      have hempty : Path.ofText "" = ⟨0, []⟩ := by decide
      rw [hempty]
      simp [Path.join, Path.isAbsolute]
    rw [hjoin, hs.locate hw, Except.ok.injEq] at hl
    rw [← hl]
    exact hw.directory
  · have hjoin : p.join (.ofText "..") = p.child ".." := by
      have hdots : Path.ofText ".." = ⟨0, [".."]⟩ := by decide
      rw [hdots]
      rfl
    have hproper : (p.child "..").Proper := by
      intro m hm
      rcases List.mem_append.mp hm with hm | hm
      · exact hs.proper m hm
      · rw [List.mem_singleton.mp hm]
        decide
    rw [hjoin, locate_text hproper (by simp [Path.child])] at hl
    obtain ⟨m, hm, hlast⟩ := walk_append.mp hl
    have hsm := hs.walk_within hw
    have hmeq : m = s := Except.ok.inj (hm.symm.trans hsm)
    obtain ⟨k, hstep, hk⟩ := walk_cons_eq_ok.mp hlast
    obtain ⟨-, hup'⟩ := step_eq_ok.mp hstep
    cases hk
    rw [hup', hmeq, if_neg (by decide), if_pos rfl]
    by_cases hprefix : s <+: s.dropLast
    · have hnil : s.dropLast = s := (List.dropLast_prefix s).eq_of_length_le hprefix.length_le
      rw [hnil]
      exact hw.directory
    · rw [hw.outside _ hprefix]
      exact hup

theorem isName_of_writeFile (hs : Scratch t0 h.here p s) (hup : t0.get? s.dropLast = some .directory)
    {t : Tree} (hw : Within t0 s t) (ho : config.output.Proper) {content : Bytes} {t' : Tree}
    (hwrite : t.writeFile h.here (p.join (.ofText config.output.name)).text content = .ok t') :
    IsName config.output.name := by
  rcases name_of_proper ho with hn | hn | hn
  · exact absurd hwrite (writeFile_unnamed hs hup hw (.inl hn) content t')
  · exact absurd hwrite (writeFile_unnamed hs hup hw (.inr hn) content t')
  · exact hn

end ShaderBundle
