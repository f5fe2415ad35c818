import ShaderBundle.Proofs.Action.Yielding
import ShaderBundle.Proofs.Generate.Provenance
import ShaderBundle.Proofs.Generate.Steps

/-!
# Making sources again

What has been made of a shader is made of it again. Tools that can make some sources of a shader do so wherever the
shader is rendered alike and the scratch directory is empty and can be written, so a run that can give some records
gives them.

* `Host.Roomy`: the directory can be written.
* `yields_convertVariant`, `yields_convertShader`: one variant, and one shader.
* `convertShaders_recorded`: what is known of the records of a run.
* `yields_convertShaders`: a run with these records.
-/

namespace ShaderBundle

open ShaderBundle.Action ShaderBundle.Tree

/-- The system takes the path of the directory, and the disk takes all that is written. -/
structure Host.Roomy (h : Host) (p : Path) : Prop where
  plain : isPlain p.text = true
  whole : ∀ n path content, h.disk n path content = none

variable {h : Host} {g : Generator} {fxc : Bytecode.Fxc} {b : Behaviour}
variable {t0 t : Tree} {s : Location} {p d : Path} {files : Files} {w w' : World} {n : String} {args : VariantArgs}

theorem Host.Roomy.takes (hroom : h.Roomy p) (hn : isPlain n = true) : h.Takes (p.child n).text :=
  ⟨by rw [isPlain_child, hroom.plain, hn, Bool.and_self], fun n content => hroom.whole n _ content⟩

section
variable (hs : Scratch t0 h.here p s) (hb : Follows h g.crossCompiler fxc b)
include hs hb

/-! ## The bytecode -/

section
variable (hroom : h.Roomy p) (hfxc : fxc.scratch = p) (hclean : files "shader.hlsl" = none)
  (hclean' : files "shader.cso" = none) {source entry : String} (hsource : Text.Writable source) {content : Bytes}
include hroom hfxc hclean hclean' hsource

omit hb hclean hclean' in
/-- The source gets written. -/
theorem saves_hlsl (hf : Holds t0 s files w.tree) :
    ∃ t1, save h fxc.sourcePath source w = (.ok (.ok ()), { w with tree := t1 }) := by
  subst hfxc
  obtain ⟨t1, hwrite, -⟩ := hs.writeFile hf isName_hlsl (Text.toUtf8 source)
  have htakes := hroom.takes (n := "shader.hlsl") (by decide)
  exact ⟨t1, save_run hsource htakes.plain (htakes.whole _ _) hwrite⟩

theorem yields_fxc {profile : String} (ha : Accepted b fxc source entry profile content) :
    Yields (Holds t0 s files) (Holds t0 s files) (fxc.compile h source entry profile) content := by
  intro w hf
  obtain ⟨t1, hsave⟩ := saves_hlsl hs hroom hfxc hsource hf
  obtain ⟨w1, hrun, hf1⟩ := compile_answers hs hf hb hfxc hclean hclean' entry profile hsave
  obtain ⟨r, hx, hsucceeds⟩ := ha
  rw [hx, Bytecode.answer_eq_ok.mpr ⟨hsucceeds, rfl⟩] at hrun
  exact ⟨w1, hrun, hf1⟩

theorem fxc_rejected {profile : String} (hr : Rejected b fxc source entry profile) (hf : Holds t0 s files w.tree) :
    ∃ words w', fxc.compile h source entry profile w =
      (.error (.reported { cause := .bytecode profile words }), w') ∧ Holds t0 s files w'.tree := by
  obtain ⟨t1, hsave⟩ := saves_hlsl hs hroom hfxc hsource hf
  obtain ⟨w1, hrun, hf1⟩ := compile_answers hs hf hb hfxc hclean hclean' entry profile hsave
  obtain ⟨words, hanswer⟩ := Bytecode.answer_rejected fxc profile hr
  rw [hanswer] at hrun
  exact ⟨words, w1, hrun, hf1⟩

omit hsource

theorem yields_compile {stage : Stage} (hc : Compiled b fxc source stage entry content) :
    Yields (Holds t0 s files) (Holds t0 s files) (Bytecode.compile (fxc.compile h) source stage entry) content := by
  intro w hf
  obtain ⟨hsource, ha | ⟨hr, ha⟩⟩ := hc
  · obtain ⟨w1, hrun, hf1⟩ := yields_fxc hs hb hroom hfxc hclean hclean' hsource ha w hf
    exact ⟨w1, Bytecode.onRejection_other hrun nofun, hf1⟩
  · obtain ⟨words, w1, hrun, hf1⟩ := fxc_rejected hs hb hroom hfxc hclean hclean' hsource hr hf
    have hretry {level : Level} {text : String} {handler : Failure → String → Action Bytes} :
        Yields (Holds t0 s files) (Holds t0 s files) (do
          log level text
          logWords .debug words
          Bytecode.onRejection (fxc.compile h source entry (Bytecode.fallbackProfile stage)) handler) content := by
      refine (Yields.log _ _).bind ((Yields.logWords _ _).bind fun w hf => ?_)
      obtain ⟨w1, hrun, hf1⟩ := yields_fxc hs hb hroom hfxc hclean hclean' hsource ha w hf
      exact ⟨w1, Bytecode.onRejection_other hrun nofun, hf1⟩
    obtain ⟨w2, hrun', hf2⟩ := hretry w1 hf1
    exact ⟨w2, (Bytecode.onRejection_rejected hrun).trans hrun', hf2⟩

end

/-! ## The translations -/

section
variable (hp : g.crossCompiler.scratch = p) (hn : IsName n) {rendered : String} {stage : Stage}
  (hstage : Stage.ofPath? (.ofText (p.child n).text) = some stage)
  (hfile : files n = some (Text.toUtf8 rendered))
  (hclean : ∀ stage, files (CrossCompiler.sourceName stage) = none ∧
    files (CrossCompiler.reflectionName stage) = none)
include hp hn hstage hfile hclean

theorem yields_convert {target : Target} {text : String} {description : Bytes}
    (ht : Translated b g.crossCompiler (p.child n).text stage rendered target text description) :
    Yields (Holds t0 s files) (Holds t0 s files) (g.crossCompiler.convert h (p.child n).text target)
      (text, description) := by
  subst hp
  intro w hf
  have hsource := (hs.readFile_eq_ok hf hn).mpr hfile
  obtain ⟨w1, hrun, -, ha⟩ := CrossCompiler.convert_run hs.folder (fun _ => ⟨hs.free _, hs.free _⟩)
    (hs.holds_iff_adds.mp hf) hstage (hb.makes hsource stage target)
  obtain ⟨r, bytes, houtcome, hsucceeds, hdecode⟩ := ht
  obtain ⟨hsourceName, hreflectionName⟩ := hclean stage
  rw [houtcome, CrossCompiler.answer_eq_ok.mpr ⟨r, _, _, bytes, rfl, hsucceeds, rfl, hdecode, rfl⟩] at hrun
  rw [houtcome, CrossCompiler.leaves, if_pos hsucceeds, CrossCompiler.taken_written,
    CrossCompiler.taken_of_none hsourceName hreflectionName] at ha
  exact ⟨w1, hrun, hs.holds_iff_adds.mpr ha⟩

theorem yields_translate {v : VariantSources} {target : Target} {text : String} {description : Bytes}
    (ht : Translated b g.crossCompiler (p.child n).text stage rendered target text description)
    (htarget : target ≠ .gles100) :
    Yields (Holds t0 s files) (Holds t0 s files) (g.translate h (p.child n).text v target)
      (Generator.withSource v target text) := by
  refine (yields_convert hs hb hp hn hstage hfile hclean ht).bind ?_
  dsimp only
  rw [if_neg htarget]
  exact .pure _

/-- The first translation is reflected. -/
theorem yields_translate_first {v : VariantSources} {text : String} {description : Bytes} {r : Reflection}
    (ht : Translated b g.crossCompiler (p.child n).text stage rendered .gles100 text description)
    (hr : Described description r) :
    Yields (Holds t0 s files) (Holds t0 s files) (g.translate h (p.child n).text v .gles100)
      { Generator.withSource v .gles100 text with reflection := r } := by
  refine (yields_convert hs hb hp hn hstage hfile hclean ht).bind ?_
  dsimp only
  rw [if_pos rfl]
  refine Yields.bind ?_ (.pure _)
  unfold Generator.reflect
  rw [hr.1, if_neg (by decide), hr.2]
  exact (Yields.log _ _).bind (.pure _)

theorem yields_translateAll {v : VariantSources} (ht : Translations b g.crossCompiler (p.child n).text stage rendered v) :
    Yields (Holds t0 s files) (Holds t0 s files) (Target.all.foldlM (g.translate h (p.child n).text) {})
      { v with glsl150 := "", hlsl := [] } := by
  obtain ⟨⟨description1, ht1, hread⟩, ⟨description2, ht2⟩, ⟨description3, ht3⟩, ⟨description4, ht4⟩⟩ := ht
  rw [Target.all, List.foldlM_cons]
  refine (yields_translate_first hs hb hp hn hstage hfile hclean ht1 hread).bind ?_
  rw [List.foldlM_cons]
  refine (yields_translate hs hb hp hn hstage hfile hclean ht2 (by decide)).bind ?_
  rw [List.foldlM_cons]
  refine (yields_translate hs hb hp hn hstage hfile hclean ht3 (by decide)).bind ?_
  rw [List.foldlM_cons]
  refine (yields_translate hs hb hp hn hstage hfile hclean ht4 (by decide)).bind ?_
  rw [List.foldlM_nil]
  exact .pure _

end

end

/-! ## One variant -/

section
variable (hs : Scratch t0 h.here p s)
include hs

theorem yields_removeScratch (hn : IsName n) {content : Bytes} :
    Yields (Holds t0 s (Function.update noFiles n (some content))) (Holds t0 s noFiles)
      (Shader.removeScratch h (p.child n).text) () := by
  refine Yields.clear fun t hf => ?_
  cases hr : t.removeFile h.here (p.child n).text with
  | ok t' =>
    have hf' := hs.removeFile_ok hf hn hr
    rw [Function.update_idem] at hf'
    exact ⟨t', rfl, Function.update_eq_self n noFiles ▸ hf'⟩
  | error e =>
    have hnone := hs.removeFile_error hf hn hr
    rw [Function.update_self] at hnone
    cases hnone

theorem yields_withRendered {α : Type} (hroom : h.Roomy p) (hn : IsName n) (hplain : isPlain n = true)
    {rendered : String} (hwritable : Text.Writable rendered)
    (hrendered : Shader.renderIn t0 h.here (.ofText (d.child n).text) args = .ok rendered) {body : Path → Action α}
    {x : α} (hbody : Yields (Holds t0 s (Function.update noFiles n (some (Text.toUtf8 rendered))))
      (Holds t0 s (Function.update noFiles n (some (Text.toUtf8 rendered)))) (body (p.child n)) x) :
    Yields (Holds t0 s noFiles) (Holds t0 s noFiles) (Shader.withRendered h (d.child n).text args p body) x := by
  have hrender : Yields (Holds t0 s noFiles) (Holds t0 s noFiles) (Shader.render h (.ofText (d.child n).text) args)
      rendered := by
    refine .of_run fun w hf => ?_
    rw [Shader.render_run, ← (hs.holds_none.mp hf).renderIn, hrendered]
  unfold Shader.withRendered
  rw [Shader.scratchFile_child d p hn]
  refine hrender.bind ((Yields.save hwritable (hroom.takes hplain) fun t hf =>
    hs.writeFile hf hn (Text.toUtf8 rendered)).bind ?_)
  exact (Yields.log _ _).bind (hbody.ensure (yields_removeScratch hs hn))

variable (hb : Follows h g.crossCompiler fxc b) (hroom : h.Roomy p) (hp : g.crossCompiler.scratch = p)
  (hbytecode : g.bytecodeCompiler = fxc.compile h) (hfxc : fxc.scratch = p) (hn : IsName n)
include hb hroom hp hbytecode hfxc hn

theorem yields_convertVariant {v : VariantSources}
    (hv : VariantOf b g.crossCompiler fxc t0 h.here (d.child n) args v) :
    Yields (Holds t0 s noFiles) (Holds t0 s noFiles) (g.convertVariant h (d.child n) args) v := by
  obtain ⟨stage, rendered, hstage, hrendered, hwritable, hplain, hderived⟩ := hv
  rw [Stage.ofPath?, Path.suffix, Path.name_child] at hstage
  rw [Path.name_child] at hplain
  rw [hp, Path.name_child] at hderived
  unfold Generator.convertVariant
  rw [hp, hbytecode]
  have hne := ne_outputs (n := n) (by simp [hstage])
  have hclean (stage : Stage) :
      Function.update noFiles n (some (Text.toUtf8 rendered)) (CrossCompiler.sourceName stage) = none ∧
        Function.update noFiles n (some (Text.toUtf8 rendered)) (CrossCompiler.reflectionName stage) = none := by
    rw [Function.update_of_ne (hne stage).1.symm, Function.update_of_ne (hne stage).2.1.symm]
    exact ⟨rfl, rfl⟩
  have hstage' : Stage.ofPath? (.ofText (p.child n).text) = some stage := by
    rw [ofPath?_ofText_child p hn, hstage]
  have hstageOf : Stage.ofPath? (.ofText (d.child n).text) = some stage := by
    rw [ofPath?_ofText_child d hn, hstage]
  have htranslations := yields_translateAll hs hb hp hn hstage' (Function.update_self ..) hclean
    hderived.toTranslations
  have hrest : Yields (Holds t0 s noFiles) (Holds t0 s noFiles)
      (Shader.withRendered h (d.child n).text args p fun file => Target.all.foldlM (g.translate h file.text) {})
      { v with glsl150 := "", hlsl := [] } := 
    yields_withRendered hs hroom hn hplain hwritable hrendered htranslations
  have hcompile : Yields (Holds t0 s noFiles) (Holds t0 s noFiles)
      (Bytecode.compile (fxc.compile h) v.hlslText stage Bytecode.defaultEntry) v.hlsl :=
    yields_compile hs hb hroom hfxc rfl rfl hderived.bytecode
  have hwhole : { v with glsl150 := Glsl.to150 v.glsl130 } = v := by
    rw [← hderived.glsl150]
  have hlast : Yields (Holds t0 s noFiles) (Holds t0 s noFiles)
      (pure { v with glsl150 := Glsl.to150 v.glsl130 } : Action VariantSources) v := hwhole.symm ▸ .pure v
  exact (Yields.of_run fun w _ => CrossCompiler.stageOf_run hstageOf w).bind (hrest.bind (hcompile.bind hlast))

/-! ## All shaders -/

theorem yields_convertShader {record : ShaderRecord} (hr : RecordOf b g fxc t0 h.here (d.child n) record) :
    Yields (Holds t0 s noFiles) (Holds t0 s noFiles) (g.convertShader h (d.child n)) record := by
  obtain ⟨hname, hvariants⟩ := hr
  have hall : List.Forall₂ (fun x v => VariantOf b g.crossCompiler fxc t0 h.here (d.child n) x.1 v)
      g.config.variants.zipIdx record.variants := by
    rw [← List.zipIdx_map_fst 0 g.config.variants, List.forall₂_map_left_iff] at hvariants
    exact hvariants
  have hmade : (⟨(d.child n).name, record.variants⟩ : ShaderRecord) = record := by
    rw [← hname]
  unfold Generator.convertShader
  refine (Yields.mapM hall fun x _ v hv => ?_).bind ((Yields.log _ _).bind ?_)
  · exact (yields_convertVariant hs hb hroom hp hbytecode hfxc hn hv).inContext
  · rw [hmade]
    exact .pure record

end

section
variable (hs : Scratch t0 h.here p s) (hb : Follows h g.crossCompiler fxc b) (hp : g.crossCompiler.scratch = p)
  (hbytecode : g.bytecodeCompiler = fxc.compile h) (hfxc : fxc.scratch = p) {shaders : List Path}
  (hshaders : ∀ path ∈ shaders, ∃ n, IsName n ∧ path = d.child n) {records : List ShaderRecord}
include hs hb hp hbytecode hfxc hshaders

theorem yields_convertShaders (hroom : h.Roomy p) (hall : List.Forall₂ (RecordOf b g fxc t0 h.here) shaders records) :
    Yields (Holds t0 s noFiles) (Holds t0 s noFiles) (shaders.mapM (g.convertShader h)) records := by
  refine Yields.mapM hall fun path hpath record hr => ?_
  obtain ⟨n, hn, rfl⟩ := hshaders path hpath
  exact yields_convertShader hs hb hroom hp hbytecode hfxc hn hr

/-- The records are those of the shaders that are discovered. -/
theorem convertShaders_recorded (hf : Holds t0 s noFiles w.tree)
    (hr : shaders.mapM (g.convertShader h) w = (.ok records, w')) :
    Holds t0 s noFiles w'.tree ∧ List.Forall₂ (RecordOf b g fxc t0 h.here) shaders records := by
  refine mapM_ok (fun path hpath w1 w2 record hw1 hx => ?_) hr hf
  obtain ⟨n, hn, rfl⟩ := hshaders path hpath
  exact convertShader_ok hs hb hp hbytecode hfxc hw1 hn hx

end

end ShaderBundle
