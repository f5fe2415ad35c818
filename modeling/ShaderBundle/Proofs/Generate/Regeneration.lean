import ShaderBundle.Proofs.Generate.Making
import ShaderBundle.Proofs.Generate.Placed

/-!
# Generating again

A run changes one file, its module, and reads nothing of it: neither the shaders nor the tools that it uses are there.
So it gives the same module whatever was in its place, and a run after it changes nothing.

* `Aside`, `Fresh`: where the module goes, and a scratch directory that plays no part.
* `Craft.Makes.of_same`: records depend on the files below the shaders' directory.
* `generate_stable`: a run, and a second one with another scratch directory.
-/

namespace ShaderBundle

open ShaderBundle.Action ShaderBundle.Tree Generator

/-! ## Places -/

/-- The names that tools are looked up by. -/
def Config.toolNames (config : Config) : List String :=
  config.glslcc :: config.hlslCompiler :: config.formatter.head?.toList

/-- No tool is found at the location. -/
def Host.Spares (h : Host) (config : Config) (t : Tree) (l : Location) : Prop :=
  ∀ name ∈ config.toolNames, ∀ tool, h.findTool? t name = some tool → t.locate h.here tool ≠ .ok l

/-- The module goes to where there is no directory and no tool, outside of the shaders' directory. -/
structure Aside (h : Host) (config : Config) (t : Tree) (sd l : Location) : Prop where
  shaders : t.locate h.here config.shaderDir.text = .ok sd ∧ t.get? sd = some .directory
  output : t.locate h.here config.output.text = .ok l
  no_directory : t.get? l ≠ some .directory
  outside : ¬sd <+: l
  spared : h.Spares config t l

/-- A scratch directory can be made, elsewhere, and the formatter is not found by way of it. -/
structure Fresh (h : Host) (config : Config) (t : Tree) (l : Location) : Prop where
  made : ∃ t1, t.makeDirectory h.here h.scratchPath = .ok t1
  apart : t.locate h.here h.scratchPath ≠ .ok l
  unseen : ∀ t1, t.makeDirectory h.here h.scratchPath = .ok t1 → ∀ name ∈ config.formatter.head?,
    h.findTool? t1 name = h.findTool? t name

/-- Hosts that run at the same place and look up tools in the same directories. -/
structure Host.Like (h h' : Host) : Prop where
  here : h'.here = h.here
  toolPath : h'.toolPath = h.toolPath

theorem Host.Like.findTool? {h h' : Host} (hh : h.Like h') (t : Tree) (name : String) :
    h'.findTool? t name = h.findTool? t name := by
  unfold Host.findTool?
  rw [hh.here, hh.toolPath]

/-! ## Records -/

variable {k : Craft} {h h' : Host} {config : Config} {c c' : CrossCompiler} {fxc fxc' : Bytecode.Fxc} {t t' : Tree}
variable {here sd l : Location} {records : List ShaderRecord} {w w1 : World} {output : Path}

/-- The records of a directory depend on the files below it. -/
theorem Craft.Makes.of_same (hm : k.Makes config c fxc t here records) (hc : c.bare = c'.bare)
    (hfxc : fxc.bare = fxc'.bare) (hp : config.shaderDir.Proper) (hroot : config.shaderDir.root ≤ 2)
    (ht : t.WellFormed) (ht' : t'.WellFormed) (hd : t.Distinct) (hd' : t'.Distinct)
    (hl : t.locate here config.shaderDir.text = .ok sd) (hl' : t'.locate here config.shaderDir.text = .ok sd)
    (hdir : t'.get? sd = some .directory) (hsame : SameFiles sd t t') : k.Makes config c' fxc' t' here records := by
  obtain ⟨names, hlist, hall⟩ := hm
  obtain ⟨l, hl0, hdir0, rfl⟩ := list_eq_ok.mp hlist
  cases hl.symm.trans hl0
  have hfolder := Folder.of_locate hp hroot hl hdir0
  have hfolder' := Folder.of_locate hp hroot hl' hdir
  refine ⟨_, list_eq_ok.mpr ⟨sd, hl', hdir, rfl⟩, ?_⟩
  rw [← hsame.shadersAmong hfolder hfolder' ht ht' hd hd']
  refine forall₂_imp_mem hall fun path hmem record hr => hr.of_rendered hc hfxc fun args _ => ?_
  obtain ⟨n, rfl, -, content, x, hfile⟩ := (mem_shaders hfolder ht).mp hmem
  have hpresent : t.get? (sd ++ [n]) ≠ none := by simp [hfile]
  have hn := ht.names _ hpresent n (by simp)
  exact hsame.renderIn hp hroot hn ht ht' hl hl' args

/-! ## Another tree -/

section
variable (hh : h.Like h') (hp : config.shaderDir.Proper) (hroot : config.shaderDir.root ≤ 2)
  (ht : t.WellFormed) (ht' : t'.WellFormed) (hd : t.Distinct) (hd' : t'.Distinct) (ha : Aside h config t sd l)
  (hsame : ∀ m, m ≠ l → t.get? m = t'.get? m) (hl : t'.get? l ≠ some .directory) (hspared : h'.Spares config t' l)
include hh ha hsame hl hspared

/-- A tool is found again where the trees differ in the place of the module alone. -/
theorem findTool?_aside {name tool : String} (hname : name ∈ config.toolNames) (hf : h.findTool? t name = some tool) :
    h'.findTool? t' name = some tool := by
  have hdirectories := SameDirectories.of_change ha.no_directory hl hsame
  rw [hh.findTool?]
  refine findTool?_elsewhere hdirectories hsame hf (ha.spared name hname tool hf) fun tool' hf' => ?_
  rw [← hh.here]
  rw [← hh.findTool?] at hf'
  exact hspared name hname tool' hf'

include hp hroot ht ht' hd hd'

/-- What is made in a tree is made in one that differs in the place of the module alone. -/
theorem Made.again {t1 : Tree} {glslcc fxc source : String} {content : Bytes} {x : Bool}
    (hm : Made k h config t t1 glslcc fxc records source content x) (hfresh : Fresh h config t l)
    (hfresh' : Fresh h' config t' l) : ∃ t1', Made k h' config t' t1' glslcc fxc records source content x := by
  have hdirectories := SameDirectories.of_change ha.no_directory hl hsame
  have hpath : h'.path = h.path := by
    unfold Host.path
    rw [hh.here]
  obtain ⟨t1', hmake⟩ := hfresh'.made
  obtain ⟨_, -, -, -, ht1, -⟩ := scratch_of_makeDirectory ht hm.scratch
  obtain ⟨_, -, -, -, ht1', -⟩ := scratch_of_makeDirectory ht' hmake
  have hleads : t1.locate h.here config.shaderDir.text = .ok sd :=
    locate_mono (fun m => makeDirectory_keeps hm.scratch) ha.shaders.1
  have hleads' : t1'.locate h.here config.shaderDir.text = .ok sd :=
    locate_mono (fun m => makeDirectory_keeps hmake) (hdirectories.locate.mp ha.shaders.1)
  have hfolder : t1'.get? sd = some .directory := makeDirectory_keeps hmake ((hdirectories sd).mp ha.shaders.2)
  have hfiles : SameFiles sd t1 t1' :=
    (SameFiles.of_makeDirectory hm.scratch).symm.trans
      ((SameFiles.of_elsewhere ha.outside hsame).trans (.of_makeDirectory hmake))
  refine ⟨t1', ?_, ?_, ?_, hmake, ?_, hm.emitted, hm.writable, hm.plain, hm.finished.of_found fun name hname tool hf => ?_⟩
  · exact findTool?_aside hh ha hsame hl hspared (by simp [Config.toolNames]) hm.cross
  · exact findTool?_aside hh ha hsame hl hspared (by simp [Config.toolNames]) hm.bytecode
  · rw [hpath, hh.here]
    exact hdirectories.isDirectory.mp hm.directory
  · rw [hh.here]
    exact hm.recorded.of_same (bare_crossCompiler hh.here _ _ _) rfl hp hroot ht1 ht1' (hd.makeDirectory hm.scratch) (hd'.makeDirectory hmake)
      hleads hleads' hfolder hfiles
  · rw [hfresh.unseen t1 hm.scratch name hname] at hf
    rw [hfresh'.unseen t1' hmake name hname]
    have hmem : name ∈ config.toolNames := by
      rw [Config.toolNames, Option.mem_def.mp hname]
      simp
    exact findTool?_aside hh ha hsame hl hspared hmem hf

end

/-! ## A second run -/

section
variable (hk : Crafted h config k) (hk' : Crafted h' config k) (hh : h.Like h')
  (hp : config.shaderDir.Proper) (hroot : config.shaderDir.root ≤ 2) (ho : config.output.Proper)
  (ht : w.tree.WellFormed) (hd : w.tree.Distinct) (ha : Aside h config w.tree sd l) (hfresh : Fresh h config w.tree l)
  (hg : generate h config w = (.ok output, w1))
include hk hk' hh hp hroot ho ht hd ha hfresh hg

/-- Whatever file is in the place of the module, a run leaves the same files. -/
theorem generate_again {w2 : World} (hd' : w2.tree.Distinct) (hsame : ∀ m, m ≠ l → w.tree.get? m = w2.tree.get? m)
    (hl : w2.tree.get? l ≠ some .directory) (hspared : h'.Spares config w2.tree l) (hfresh' : Fresh h' config w2.tree l)
    (hroom : h'.Roomy (.ofText h'.scratchPath)) :
    ∃ w3, generate h' config w2 = (.ok output, w3) ∧ w1.tree.Same w3.tree := by
  obtain ⟨rfl, hn, t1, glslcc, fxc, records, source, content, x, j, hm, hplaced⟩ := made_of_generate hk ho ht hg
  obtain ⟨rfl, hput⟩ := hplaced.replaced l ha.output ha.no_directory
  obtain ⟨q, hq, hchild⟩ := Path.exists_child ho hn
  obtain ⟨m, hmdir, hlm⟩ := directory_of_locate hq hn (hchild ▸ ha.output)
  have ht' : w2.tree.WellFormed := by
    refine ht.of_change hmdir hn (fun hdir => ?_) fun k hk => ?_
    · exact absurd hdir (hlm ▸ ha.no_directory)
    · exact (hsame k (hlm ▸ hk)).symm
  -- what the first run has made can be made in the other tree, so a run there succeeds and puts the same in its place
  obtain ⟨t1', hm'⟩ := hm.again hh hp hroot ht ht' hd hd' ha hsame hl hspared hfresh hfresh'
  have hdirectories := SameDirectories.of_change ha.no_directory hl hsame
  have hleads : w2.tree.locate h'.here config.output.text = .ok j := by
    rw [hh.here]
    exact hdirectories.locate.mp ha.output
  obtain ⟨w3, hrun, hset⟩ := generate_of_made hk' ho ht' hroom hn hm' hleads hl hfresh'.apart
  refine ⟨w3, hrun, fun m => ?_⟩
  by_cases hmj : m = j
  · rw [hmj, hput, hset.there]
  · rw [hplaced.others m hmj, hset.elsewhere hmj, hsame m hmj]

end

/-- A run gives the path of its configuration. A second one, which starts from what the first one has left and can write
as much, gives the same path and changes nothing. Nor does it matter what file was in the place of the module before the first one, if
any: a run leaves the same files. -/
theorem generate_stable (hk : Crafted h config k) (hk' : Crafted h' config k) (hh : h.Like h')
    (hp : ∃ text, config.shaderDir = .ofText text) (ho : ∃ text, config.output = .ofText text)
    (ht : w.tree.WellFormed) (hd : w.tree.Distinct) (ha : Aside h config w.tree sd l)
    (hfresh : Fresh h config w.tree l) (hroom : h'.Roomy (.ofText h'.scratchPath))
    (hg : generate h config w = (.ok output, w1)) :
    output = config.output ∧
      (∀ w2 : World, w1.tree.Same w2.tree → w2.tree.Distinct → h'.Spares config w2.tree l →
        Fresh h' config w2.tree l → ∃ w3, generate h' config w2 = (.ok output, w3) ∧ w2.tree.Same w3.tree) ∧
      ∀ w2 : World, (∀ m, m ≠ l → w.tree.get? m = w2.tree.get? m) → w2.tree.get? l ≠ some .directory →
        w2.tree.Distinct → h'.Spares config w2.tree l → Fresh h' config w2.tree l →
        ∃ w3, generate h' config w2 = (.ok output, w3) ∧ w1.tree.Same w3.tree := by
  obtain ⟨directory, hp⟩ := hp
  obtain ⟨file, ho⟩ := ho
  have hproper : config.output.Proper := ho ▸ Path.proper_ofText file
  have hproper' : config.shaderDir.Proper := hp ▸ Path.proper_ofText directory
  have hroot : config.shaderDir.root ≤ 2 := hp ▸ Path.rootOf_le _
  obtain ⟨houtput, -, -, -, -, -, -, content, x, j, -, hplaced⟩ := made_of_generate hk hproper ht hg
  obtain ⟨rfl, hput⟩ := hplaced.replaced l ha.output ha.no_directory
  refine ⟨houtput, fun w2 hsame hd' hspared hfresh' => ?_, fun w2 hsame hl hd' hspared hfresh' => ?_⟩
  · have hfile : w2.tree.get? j ≠ some .directory := by
      rw [← hsame j, hput]
      nofun
    have hothers : ∀ m, m ≠ j → w.tree.get? m = w2.tree.get? m := fun m hm =>
      (hplaced.others m hm).symm.trans (hsame m)
    obtain ⟨w3, hrun, hsame'⟩ := generate_again hk hk' hh hproper' hroot hproper ht hd ha hfresh hg hd' hothers hfile
      hspared hfresh' hroom
    exact ⟨w3, hrun, fun m => (hsame m).symm.trans (hsame' m)⟩
  · exact generate_again hk hk' hh hproper' hroot hproper ht hd ha hfresh hg hd' hsame hl hspared hfresh' hroom

/-! Tools that hand on the text of their input, whatever it is called, and two scratch directories. -/

def handing : Craft where
  cross := fun argv source => ifPlain argv (.ok ({}, some source, some (Text.toUtf8 "\x7b\x7d")))
  bytecode := fun argv source => ifPlain argv (.ok ({}, some source))
  format := fun _ _ => .ok ({}, none)

theorem plain_handing : handing.toBehaviour.Plain := ⟨fun _ _ _ => ifPlain_eq_unfit, fun _ _ _ => ifPlain_eq_unfit⟩

def handingConfig : Config := { package := "gpu", formatter := [] }

def scratchHost (scratchName : String) : Host := { deadHost with scratchName }

def handingHost (scratchName : String) : Host :=
  { scratchHost scratchName with
    tools := handing.tools (scratchHost scratchName).here
      (handingConfig.crossCompiler (scratchHost scratchName) (inside "/w/bin" "glslcc"))
      ((scratchHost scratchName).bytecodeCompiler (inside "/w/bin" "fxc")) }

theorem tool_of_handingHost {scratchName name tool : String} (hname : name.toList.contains '/' = false)
    (hf : (handingHost scratchName).findTool? t name = some tool) : tool = inside "/w/bin" name := by
  unfold Host.findTool? at hf
  rw [hname, if_neg (by decide)] at hf
  exact List.mem_singleton.mp (List.mem_of_find?_eq_some hf)

/-- What makes a command line for them unfit is there in the options, too. -/
theorem relocated_handing {c : CrossCompiler} {fxc : Bytecode.Fxc} (htool : isPlain c.tool = true)
    (hdir : isPlain c.includeDir.text = true) (hscratch : isPlain c.scratch.text = true)
    (htool' : isPlain fxc.tool = true) (hscratch' : isPlain fxc.scratch.text = true) :
    handing.toBehaviour.Relocated handing.toBehaviour c fxc where
  cross n _ hn stage target source := by
    have hplain : (c.command (c.scratch.child n).text stage target).all isPlain = true :=
      CrossCompiler.plain_command htool hdir hscratch (by rw [isPlain_child, hscratch, hn, Bool.and_self]) stage target
    have htool0 : isPlain c.bare.tool = true := by
      change isPlain "" = true
      decide
    have hscratch0 : isPlain c.bare.scratch.text = true := by
      change isPlain (Path.text { root := 0, parts := [] }) = true
      decide
    have hbare : (c.bare.command (c.bare.scratch.child n).text stage target).all isPlain = true :=
      CrossCompiler.plain_command htool0 hdir hscratch0 (by rw [isPlain_child, hscratch0, hn, Bool.and_self]) stage target
    dsimp only [handing]
    rw [ifPlain_of_plain hplain, ifPlain_of_plain hbare]
  bytecode entry profile source := by
    have hpaths (name : String) (hname : isPlain name = true) : unfit? (fxc.scratch.child name).text = none :=
      unfit?_eq_none.mpr (by rw [isPlain_child, hscratch', hname, Bool.and_self])
    have hscratch0 : isPlain fxc.bare.scratch.text = true := by
      change isPlain (Path.text { root := 0, parts := [] }) = true
      decide
    have hbare (name : String) (hname : isPlain name = true) : unfit? (fxc.bare.scratch.child name).text = none :=
      unfit?_eq_none.mpr (by rw [isPlain_child, hname, hscratch0, Bool.and_self])
    have hunfit : (fxc.command entry profile).findSome? unfit? = (fxc.bare.command entry profile).findSome? unfit? := by
      simp only [Bytecode.Fxc.command, Bytecode.Fxc.outputPath, Bytecode.Fxc.sourcePath, List.findSome?_cons,
        List.findSome?_nil, unfit?_eq_none.mpr htool', hpaths "shader.cso" (by decide), hpaths "shader.hlsl" (by decide),
        hbare "shader.cso" (by decide), hbare "shader.hlsl" (by decide),
        show unfit? fxc.bare.tool = none from rfl]
    dsimp only [handing, ifPlain]
    rw [hunfit]

theorem roomy_handingHost {scratchName : String}
    (hplain : isPlain (Path.ofText (handingHost scratchName).scratchPath).text = true) :
    (handingHost scratchName).Roomy (.ofText (handingHost scratchName).scratchPath) := ⟨hplain, fun _ _ _ => rfl⟩

theorem crafted_handingHost {scratchName : String}
    (hplain : isPlain (Path.ofText (handingHost scratchName).scratchPath).text = true) :
    Crafted (handingHost scratchName) handingConfig handing where
  converts t glslcc fxc hglslcc hfxc := by
    obtain rfl := tool_of_handingHost (by decide) hglslcc
    obtain rfl := tool_of_handingHost (by decide) hfxc
    have hfollows := follows_tools (scratchHost scratchName) plain_handing
      (handingConfig.crossCompiler (scratchHost scratchName) (inside "/w/bin" "glslcc"))
      ((scratchHost scratchName).bytecodeCompiler (inside "/w/bin" "fxc"))
    have hglslcc : isPlain (inside "/w/bin" "glslcc") = true := by decide +kernel
    have hfxc : isPlain (inside "/w/bin" "fxc") = true := by decide +kernel
    have hdir : isPlain (handingConfig.shaderDir.absolute deadHost.path).text = true := by decide +kernel
    exact ⟨handing.toBehaviour, hfollows, relocated_handing hglslcc hdir hplain hfxc hplain⟩
  format_error _ _ _ _ _ _ _ _ _ hf := by cases hf
  format_ok _ _ _ _ _ _ _ _ _ _ hf := by cases hf

/-- The tools and the module have different names. -/
theorem spares_handingHost (scratchName : String) (t : Tree) :
    (handingHost scratchName).Spares handingConfig t ["w", "shaders.go"] := by
  intro name hname tool hf hl
  have hnames : name = "glslcc" ∨ name = "fxc" := by simpa [Config.toolNames, handingConfig] using hname
  obtain ⟨hisName, hslash, hne⟩ : IsName name ∧ name.toList.contains '/' = false ∧ "shaders.go" ≠ name := by
    rcases hnames with rfl | rfl <;> decide
  obtain rfl := tool_of_handingHost hslash hf
  have hdir : "/w/bin" ≠ "" := by decide
  exact hne (Option.some.inj (getLast?_of_locate_inside hdir hisName hl))

theorem fresh_handingHost {scratchName : String} (hn : IsName scratchName) (hne : scratchName ≠ "shaders.go")
    (hmake : (t.makeDirectory deadHost.here (handingHost scratchName).scratchPath).toBool = true) :
    Fresh (handingHost scratchName) handingConfig t ["w", "shaders.go"] where
  made := by
    cases hm : t.makeDirectory deadHost.here (handingHost scratchName).scratchPath with
    | ok t1 => exact ⟨t1, hm⟩
    | error e =>
      rw [hm] at hmake
      cases hmake
  apart hl := by
    have hdir : "/w/tmp" ≠ "" := by decide
    exact hne (Option.some.inj (getLast?_of_locate_inside hdir hn hl)).symm
  unseen t1 _ name hname := by cases hname

theorem toBool_handing : (generate (handingHost "convert") handingConfig { tree := deadTree }).1.toBool = true := by
  decide +kernel

theorem generate_handing : ∃ w1 w2 w3,
    generate (handingHost "convert") handingConfig { tree := deadTree } = (.ok (.ofText "shaders.go"), w1) ∧
      generate (handingHost "again") handingConfig { tree := w1.tree } = (.ok (.ofText "shaders.go"), w2) ∧
      w1.tree.Same w2.tree ∧
      generate (handingHost "again") handingConfig { tree := deadTree.erase ["w", "shaders.go"] } =
        (.ok (.ofText "shaders.go"), w3) ∧ w1.tree.Same w3.tree := by
  have hleft : (generate (handingHost "convert") handingConfig { tree := deadTree }).2.tree.Distinct ∧
      ((generate (handingHost "convert") handingConfig { tree := deadTree }).2.tree.makeDirectory
        deadHost.here (handingHost "again").scratchPath).toBool = true := by
    decide +kernel
  have hplain : isPlain (Path.ofText (handingHost "convert").scratchPath).text = true := by decide +kernel
  have hplain' : isPlain (Path.ofText (handingHost "again").scratchPath).text = true := by decide +kernel
  have hlike : (handingHost "convert").Like (handingHost "again") := ⟨rfl, rfl⟩
  have hfresh : Fresh (handingHost "convert") handingConfig deadTree ["w", "shaders.go"] :=
    fresh_handingHost (by decide) (by decide) (by decide +kernel)
  have haside : Aside (handingHost "convert") handingConfig deadTree ["w", "shaders"] ["w", "shaders.go"] :=
    ⟨⟨rfl, rfl⟩, rfl, by decide, by decide, spares_handingHost _ _⟩
  have hsucceeds := toBool_handing
  rcases hg : generate (handingHost "convert") handingConfig { tree := deadTree } with ⟨_ | output, w1⟩
  · rw [hg] at hsucceeds
    cases hsucceeds
  · rw [hg] at hleft
    obtain ⟨hdistinct, hmake⟩ := hleft
    obtain ⟨rfl, hsecond, hother⟩ := generate_stable (crafted_handingHost hplain) (crafted_handingHost hplain')
      hlike ⟨"shaders", rfl⟩ ⟨"shaders.go", rfl⟩ (by decide +kernel) (by decide) haside hfresh (roomy_handingHost hplain') hg
    obtain ⟨w2, hrun2, hsame2⟩ := hsecond { tree := w1.tree } (.refl _) hdistinct (spares_handingHost _ _)
      (fresh_handingHost (by decide) (by decide) hmake)
    have hothers (m : Location) (hm : m ≠ ["w", "shaders.go"]) :
        deadTree.get? m = (deadTree.erase ["w", "shaders.go"]).get? m := by
      rw [get?_erase (by simp), if_neg hm]
    obtain ⟨w3, hrun3, hsame3⟩ := hother { tree := deadTree.erase ["w", "shaders.go"] } hothers (by decide) (by decide)
      (spares_handingHost _ _) (fresh_handingHost (by decide) (by decide) (by decide +kernel))
    exact ⟨w1, w2, w3, rfl, hrun2, hsame2, hrun3, hsame3⟩

end ShaderBundle
