import ShaderBundle.Proofs.Generate.Reading
import ShaderBundle.Proofs.Generate.Reproduction
import ShaderBundle.Proofs.Generate.Stages

/-!
# Tools that do not know where they work

Command lines name the scratch directory, which is another one in each run. Tools whose effects depend on their options
and on the text of their input do the same wherever it is: what they make is told by command lines from which it is
left out, and the path of the tool with it. So is what is in the records of a run.

* `Craft`, `Crafted`: what such tools make, and a host and a configuration whose tools do so.
* `Craft.Records`: a record, wherever it is made. `records_iff`: it is what a run gives. `Craft.Records.unique`: it is the
  only one.
* `Craft.Makes`: all records of a run. `run_makes`, `run_of_makes`.
-/

namespace ShaderBundle

open ShaderBundle.Action ShaderBundle.Tree Generator

/-! ## Crafts -/

/-- The same without the place of the tool and without a scratch directory: all that is told of a file in it is its
name. Its command lines are options. -/
def CrossCompiler.bare (c : CrossCompiler) : CrossCompiler := { c with tool := "", scratch := ⟨0, []⟩ }

def Bytecode.Fxc.bare (_ : Bytecode.Fxc) : Bytecode.Fxc := ⟨"", ⟨0, []⟩⟩

/-- Of command lines for these tools, `b` makes what `k` makes of the options. -/
structure Behaviour.Relocated (k b : Behaviour) (c : CrossCompiler) (fxc : Bytecode.Fxc) : Prop where
  cross : ∀ n, IsName n → isPlain n = true → ∀ stage target source,
    b.cross (c.command (c.scratch.child n).text stage target) source =
      k.cross (c.bare.command (c.bare.scratch.child n).text stage target) source
  bytecode : ∀ entry profile source,
    b.bytecode (fxc.command entry profile) source = k.bytecode (fxc.bare.command entry profile) source

theorem CrossCompiler.plain_command {c : CrossCompiler} {path : String} (htool : isPlain c.tool = true)
    (hdir : isPlain c.includeDir.text = true) (hscratch : isPlain c.scratch.text = true) (hpath : isPlain path = true)
    (stage : Stage) (target : Target) : (c.command path stage target).all isPlain = true := by
  have hbase : isPlain (c.scratch.child outputBase).text = true := by
    rw [isPlain_child, hscratch]
    decide
  have hlanguage : isPlain target.language = true := by cases target <;> decide
  have hprofile : isPlain target.profile = true := by cases target <;> decide
  have hflag : isPlain stage.flag = true := by cases stage <;> decide
  have hdefines : (if target.language = "hlsl" then ["--defines=HLSL"] else []).all isPlain = true := by
    split <;> decide
  have hflatten : (if c.flattenBlocks then ["--flatten-ubos"] else []).all isPlain = true := by split <;> decide
  rw [command, List.all_append, List.all_append, hdefines, hflatten]
  simp +decide only [List.all_cons, htool, hdir, hbase, hlanguage, hprofile, hflag, hpath]

/-- What tools make: the two compilers, and a formatter. -/
structure Craft extends Behaviour where
  /-- For the options of the formatter and the text of a module: why it is not started, or its report and what it leaves
  of the module, if anything: a text, and whether the file is executable. -/
  format : List String → Bytes → Except StartFault (ProcessResult × Option (Bytes × Bool))

/-- The cross compiler of a run. -/
def Config.crossCompiler (config : Config) (h : Host) (glslcc : String) : CrossCompiler :=
  ⟨glslcc, config.shaderDir.absolute h.path, .ofText h.scratchPath, config.flattenBlocks⟩

/-- Its options depend on the place from which paths are read. -/
theorem bare_crossCompiler {h h' : Host} (hhere : h'.here = h.here) (config : Config) (glslcc glslcc' : String) :
    (config.crossCompiler h glslcc).bare = (config.crossCompiler h' glslcc').bare := by
  unfold CrossCompiler.bare Config.crossCompiler Host.path
  rw [hhere]

/-- The bytecode compiler of a run. -/
def Host.bytecodeCompiler (h : Host) (fxc : String) : Bytecode.Fxc := ⟨fxc, .ofText h.scratchPath⟩

/-- The tools that a configuration names and a host finds do what is said of them, wherever its scratch directory is. -/
structure Crafted (h : Host) (config : Config) (k : Craft) : Prop where
  converts : ∀ t glslcc fxc, h.findTool? t config.glslcc = some glslcc → h.findTool? t config.hlslCompiler = some fxc →
    ∃ b, Follows h (config.crossCompiler h glslcc) (h.bytecodeCompiler fxc) b ∧
      k.toBehaviour.Relocated b (config.crossCompiler h glslcc) (h.bytecodeCompiler fxc)
  format_error : ∀ n name options tool t file l source e, config.formatter = name :: options →
    h.findTool? t name = some tool → t.locate h.here file = .ok l → t.get? l = some (.file source false) →
    k.format options source = .error e → h.start n (tool :: options ++ [file]) t = .error e
  format_ok : ∀ n name options tool t file l source r left, config.formatter = name :: options →
    h.findTool? t name = some tool → t.locate h.here file = .ok l → t.get? l = some (.file source false) →
    k.format options source = .ok (r, left) → ∃ t', h.start n (tool :: options ++ [file]) t = .ok (r, t') ∧
      t.SetAt l (left.map fun file => .file file.1 file.2) t'

/-! ## Sources -/

/-- What is said of the elements of two lists, place by place, need only be weakened for those of the first one. -/
theorem forall₂_imp_mem {α β : Type} {R S : α → β → Prop} {xs : List α} {ys : List β} (hall : List.Forall₂ R xs ys)
    (h : ∀ x ∈ xs, ∀ y, R x y → S x y) : List.Forall₂ S xs ys := by
  induction hall with
  | nil => exact .nil
  | @cons x y xs ys hxy _ ih =>
    exact .cons (h x List.mem_cons_self y hxy) (ih fun x' hx' => h x' (List.mem_cons_of_mem x hx'))

variable {h : Host} {config : Config} {k b : Behaviour} {c c' : CrossCompiler} {fxc fxc' : Bytecode.Fxc} {n : String}
variable {t t' : Tree} {here : Location} {stage : Stage} {rendered source entry : String} {v : VariantSources}

namespace Behaviour.Relocated

variable (hk : k.Relocated b c fxc)
include hk

theorem translated (hn : IsName n) (hplain : isPlain n = true) {target : Target} {text : String} {description : Bytes} :
    Translated b c (c.scratch.child n).text stage rendered target text description ↔
      Translated k c.bare (c.bare.scratch.child n).text stage rendered target text description := by
  unfold Translated
  rw [hk.cross n hn hplain]

theorem compiled {content : Bytes} :
    Compiled b fxc source stage entry content ↔ Compiled k fxc.bare source stage entry content := by
  unfold Compiled Accepted Rejected
  rw [hk.bytecode, hk.bytecode]

theorem derived (hn : IsName n) (hplain : isPlain n = true) : Derived b c fxc (c.scratch.child n).text stage rendered v ↔
    Derived k c.bare fxc.bare (c.bare.scratch.child n).text stage rendered v := by
  constructor
  · intro hd
    exact {
      gles100 := hd.gles100.imp fun _ => And.imp_left (hk.translated hn hplain).mp
      gles300 := hd.gles300.imp fun _ => (hk.translated hn hplain).mp
      glsl130 := hd.glsl130.imp fun _ => (hk.translated hn hplain).mp
      hlsl40 := hd.hlsl40.imp fun _ => (hk.translated hn hplain).mp
      bytecode := hk.compiled.mp hd.bytecode
      glsl150 := hd.glsl150 }
  · intro hd
    exact {
      gles100 := hd.gles100.imp fun _ => And.imp_left (hk.translated hn hplain).mpr
      gles300 := hd.gles300.imp fun _ => (hk.translated hn hplain).mpr
      glsl130 := hd.glsl130.imp fun _ => (hk.translated hn hplain).mpr
      hlsl40 := hd.hlsl40.imp fun _ => (hk.translated hn hplain).mpr
      bytecode := hk.compiled.mpr hd.bytecode
      glsl150 := hd.glsl150 }

theorem variantOf {path : Path} (hn : IsName path.name) {args : VariantArgs} :
    VariantOf b c fxc t here path args v ↔ VariantOf k c.bare fxc.bare t here path args v := by
  unfold VariantOf
  refine exists_congr fun stage => exists_congr fun rendered => and_congr_right fun _ => and_congr_right fun _ => ?_
  exact and_congr_right fun _ => and_congr_right fun hplain => hk.derived hn hplain

end Behaviour.Relocated

/-! ## Records -/

/-- The record of a shader, made by these tools anywhere. -/
def Craft.Records (k : Craft) (variants : List VariantArgs) (c : CrossCompiler) (fxc : Bytecode.Fxc) (t : Tree)
    (here : Location) (path : Path) (record : ShaderRecord) : Prop :=
  record.name = path.name ∧
    List.Forall₂ (VariantOf k.toBehaviour c.bare fxc.bare t here path) variants record.variants

variable {craft : Craft} {g : Generator} {path d : Path} {record record' : ShaderRecord} {variants : List VariantArgs}

theorem records_iff (hk : craft.toBehaviour.Relocated b g.crossCompiler fxc) (hn : IsName path.name) :
    RecordOf b g fxc t here path record ↔ craft.Records g.config.variants g.crossCompiler fxc t here path record := by
  unfold RecordOf Craft.Records
  refine and_congr_right fun _ => ?_
  constructor
  · exact List.Forall₂.imp fun _ _ => (hk.variantOf hn).mp
  · exact List.Forall₂.imp fun _ _ => (hk.variantOf hn).mpr

/-- A record is the same where its shader is rendered alike. -/
theorem Craft.Records.of_rendered (hr : craft.Records variants c fxc t here path record)
    (hc : c.bare = c'.bare) (hfxc : fxc.bare = fxc'.bare)
    (h : ∀ args ∈ variants, Shader.renderIn t here (.ofText path.text) args =
      Shader.renderIn t' here (.ofText path.text) args) : craft.Records variants c' fxc' t' here path record := by
  obtain ⟨hname, hall⟩ := hr
  refine ⟨hname, ?_⟩
  rw [← hc, ← hfxc]
  refine forall₂_imp_mem hall fun args hargs v hv => ?_
  obtain ⟨stage, rendered, hstage, hrendered, hwritten⟩ := hv
  exact ⟨stage, rendered, hstage, h args hargs ▸ hrendered, hwritten⟩

/-- Tools that make some record of a shader make no other one. -/
theorem Craft.Records.unique (hr : craft.Records variants c fxc t here path record)
    (hr' : craft.Records variants c fxc t here path record') : record = record' := by
  obtain ⟨name, vs⟩ := record
  obtain ⟨name', vs'⟩ := record'
  obtain ⟨hname, hall⟩ := hr
  obtain ⟨hname', hall'⟩ := hr'
  have hunique : Relator.RightUnique (VariantOf craft.toBehaviour c.bare fxc.bare t here path) :=
    fun _ _ _ => VariantOf.unique
  exact congr (congrArg ShaderRecord.mk (hname.trans hname'.symm)) (List.right_unique_forall₂' hunique hall hall')

/-! ## Runs -/

/-- The records that tools make of the shaders of a configuration, anywhere. -/
def Craft.Makes (k : Craft) (config : Config) (c : CrossCompiler) (fxc : Bytecode.Fxc) (t : Tree) (here : Location)
    (records : List ShaderRecord) : Prop :=
  ∃ names, t.list here config.shaderDir.text = .ok names ∧
    List.Forall₂ (k.Records config.variants c fxc t here) (shadersAmong t here config.shaderDir names) records

section
variable {w w' : World} {s : Location} {p : Path} {records : List ShaderRecord}
variable (hs : Scratch w.tree h.here p s) (ht : w.tree.WellFormed) (hb : Follows h g.crossCompiler fxc b)
  (hk : craft.toBehaviour.Relocated b g.crossCompiler fxc) (hp : g.crossCompiler.scratch = p)
  (hbytecode : g.bytecodeCompiler = fxc.compile h) (hfxc : fxc.scratch = p)
include hs ht hb hk hp hbytecode hfxc

/-- A run that succeeds gives the records that are made of the shaders. -/
theorem run_makes (hr : g.run h w = (.ok records, w')) :
    craft.Makes g.config g.crossCompiler fxc w.tree h.here records ∧ Holds w.tree s noFiles w'.tree := by
  obtain ⟨shaders, w1, hdiscover, hr⟩ := bind_ok.mp hr
  have hshaders := isName_of_discover_ok ht.names hdiscover
  obtain ⟨hsame, names, hlist, rfl⟩ := discover_ok hdiscover
  subst w1
  obtain ⟨_, w2, hlog, hr⟩ := bind_ok.mp hr
  have hclean : Holds w.tree s noFiles w2.tree := by
    cases hlog
    exact hs.holds_none.mpr (.refl w.tree)
  obtain ⟨hf, hall⟩ := convertShaders_recorded hs hb hp hbytecode hfxc hshaders hclean hr
  refine ⟨⟨names, hlist, forall₂_imp_mem hall fun path hmem record hr => ?_⟩, hf⟩
  obtain ⟨n, hn, rfl⟩ := hshaders path hmem
  exact (records_iff hk (by rwa [Path.name_child])).mp hr

/-- Where these records are made and the scratch directory can be written, a run succeeds with them. -/
theorem run_of_makes (hroom : h.Roomy p) (hm : craft.Makes g.config g.crossCompiler fxc w.tree h.here records) :
    ∃ w', g.run h w = (.ok records, w') ∧ Holds w.tree s noFiles w'.tree := by
  obtain ⟨names, hlist, hall⟩ := hm
  have hdiscover := discover_of_list hlist
  have hshaders := isName_of_discover_ok ht.names hdiscover
  have hrecords : List.Forall₂ (RecordOf b g fxc w.tree h.here)
      (shadersAmong w.tree h.here g.config.shaderDir names) records := by
    refine forall₂_imp_mem hall fun path hmem record hr => ?_
    obtain ⟨n, hn, rfl⟩ := hshaders path hmem
    exact (records_iff hk (by rwa [Path.name_child])).mpr hr
  unfold Generator.run
  rw [bind_run_ok hdiscover]
  have hconvert := yields_convertShaders hs hb hp hbytecode hfxc hshaders hroom hrecords
  exact ((Yields.log _ _).bind hconvert) w (hs.holds_none.mpr (.refl _))

end

end ShaderBundle
