import ShaderBundle.Proofs.Generate.Behaviour
import ShaderBundle.Proofs.Text.Utf8

/-!
# Where the sources come from

In a run that succeeds, everything in a record has been made from the shader and the variant that it is the
record of. Scratch files have the same names for all of them; what keeps them apart is that the scratch
directory is empty between two variants, and holds the rendered shader alone between two runs of a tool.

* `Derived`: the sources of one variant, and what they are made from.
* `convertVariant_ok`: one variant.
* `run_derived`: a whole run.
-/

namespace ShaderBundle

open ShaderBundle.Action ShaderBundle.Tree

/-- What is made of a description of a shader. -/
def Described (document : Bytes) (r : Reflection) : Prop :=
  Json.overflows document = false ∧ Reflection.read (.bytes document) = .ok r

/-- The four texts and the reflection are made from the rendered shader in this file. -/
structure Translations (b : Behaviour) (c : CrossCompiler) (file : String) (stage : Stage) (rendered : String)
    (v : VariantSources) : Prop where
  gles100 : ∃ description, Translated b c file stage rendered .gles100 v.glsl100es description ∧
    Described description v.reflection
  gles300 : ∃ description, Translated b c file stage rendered .gles300 v.glsl300es description
  glsl130 : ∃ description, Translated b c file stage rendered .glsl130 v.glsl130 description
  hlsl40 : ∃ description, Translated b c file stage rendered .hlsl40 v.hlslText description

/-- All sources are, by way of those. -/
structure Derived (b : Behaviour) (c : CrossCompiler) (fxc : Bytecode.Fxc) (file : String) (stage : Stage)
    (rendered : String) (v : VariantSources) : Prop extends Translations b c file stage rendered v where
  bytecode : Compiled b fxc v.hlslText stage Bytecode.defaultEntry v.hlsl
  glsl150 : v.glsl150 = Glsl.to150 v.glsl130

variable {h : Host} {g : Generator} {fxc : Bytecode.Fxc} {b : Behaviour}
variable {t0 t t' : Tree} {s : Location} {p d : Path} {files : Files} {w w' : World} {n : String}
  {args : VariantArgs}

/-! ## Paths -/

theorem isPlain_iff {word : String} : isPlain word = true ↔
    ∀ c ∈ word.toList, Text.isStraySurrogate c = false ∧ c ≠ '\x00' := by
  have hstray : Text.encodeFaultFrom? Text.isStraySurrogate 0 word.toList = none ↔
      ∀ c ∈ word.toList, Text.isStraySurrogate c = false := Text.encodeFaultFrom?_eq_none
  rw [← unfit?_eq_none, forall₂_and, ← hstray]
  unfold unfit?
  rw [Text.chars_eq_toList]
  cases Text.encodeFaultFrom? Text.isStraySurrogate 0 word.toList with
  | some fault => simp
  | none =>
    have hnot : '\x00' ∉ word.toList ↔ ∀ c ∈ word.toList, c ≠ '\x00' :=
      ⟨fun h c hc heq => h (heq ▸ hc), fun h hmem => h _ hmem rfl⟩
    simpa using hnot

theorem isPlain_append (a b : String) : isPlain (a ++ b) = (isPlain a && isPlain b) := by
  rw [Bool.eq_iff_iff, Bool.and_eq_true, isPlain_iff, isPlain_iff, isPlain_iff, String.toList_append]
  exact List.forall_mem_append

theorem isPlain_child (p : Path) (n : String) : isPlain (p.child n).text = (isPlain p.text && isPlain n) := by
  by_cases hparts : p.parts = []
  · have hroot (k : Nat) : isPlain (String.ofList (List.replicate k '/')) = true := by
      rw [isPlain_iff, String.toList_ofList]
      intro c hc
      rw [List.eq_of_mem_replicate hc]
      decide
    have hplain : isPlain p.text = true := by
      unfold Path.text
      split
      · decide
      · rw [hparts, isPlain_append, hroot]
        rfl
    rw [Path.text_child_of_root hparts, isPlain_append, hroot, hplain]
  · rw [Path.text_child hparts, isPlain_append, isPlain_append, show isPlain "/" = true by decide, Bool.and_true]

/-! ## Rendering -/

/-- A rendering depends on the files that can be read. -/
theorem Tree.Same.renderIn (hs : t.Same t') (here : Location) (path : Path) (args : VariantArgs) :
    Shader.renderIn t here path args = Shader.renderIn t' here path args := by
  have hlibrary : Shader.libraryOf t here path.parent.text = Shader.libraryOf t' here path.parent.text := by
    funext name
    unfold Shader.libraryOf
    have hread : t.readFile here = t'.readFile here := funext fun file => hs.readFile here file
    rw [hread]
  unfold Shader.renderIn
  rw [hlibrary]

theorem removeScratch_ok (hs : Scratch t0 h.here p s) (hf : Holds t0 s files w.tree) (hn : IsName n) {u : Unit}
    (hr : Shader.removeScratch h (p.child n).text w = (.ok u, w')) :
    Holds t0 s (Function.update files n none) w'.tree := by
  rcases clear_ok hr with ⟨t, ht, rfl⟩ | ⟨e, he, -, rfl⟩
  · exact hs.removeFile_ok hf hn ht
  · have hnone := hs.removeFile_error hf hn he
    rwa [← hnone, Function.update_eq_self]

theorem withRendered_ok {α : Type} (hs : Scratch t0 h.here p s) (hf : Holds t0 s noFiles w.tree) (hn : IsName n)
    {body : Path → Action α} {x : α} (hr : Shader.withRendered h (d.child n).text args p body w = (.ok x, w')) :
    ∃ rendered w1 w2, Shader.renderIn t0 h.here (.ofText (d.child n).text) args = .ok rendered ∧
      Text.Writable rendered ∧ isPlain n = true ∧
      Holds t0 s (Function.update noFiles n (some (Text.toUtf8 rendered))) w1.tree ∧
      body (p.child n) w1 = (.ok x, w2) ∧ Shader.removeScratch h (p.child n).text w2 = (.ok (), w') := by
  unfold Shader.withRendered at hr
  rw [Shader.scratchFile_child d p hn] at hr
  obtain ⟨rendered, w1, hrender, hr⟩ := bind_ok.mp hr
  have hrendered : Shader.renderIn w.tree h.here (.ofText (d.child n).text) args = .ok rendered ∧ w = w1 := by
    obtain ⟨_, w2, hget, hrender⟩ := bind_ok.mp hrender
    cases hget
    cases hx : Shader.renderIn w.tree h.here (.ofText (d.child n).text) args with
    | error f =>
      simp only [hx] at hrender
      cases hrender
    | ok text =>
      simp only [hx] at hrender
      cases hrender
      exact ⟨rfl, rfl⟩
  obtain ⟨hrendered, rfl⟩ := hrendered
  rw [← (hs.holds_none.mp hf).renderIn] at hrendered
  obtain ⟨r, w2, hsave, hr⟩ := bind_ok.mp hr
  cases r with
  | error e => cases hr
  | ok u =>
    obtain ⟨hwritable, hplain, t, hwrite, rfl⟩ := save_ok hsave
    obtain ⟨t1, ht1, hf1⟩ := hs.writeFile hf hn (Text.toUtf8 rendered)
    cases ht1.symm.trans hwrite
    rw [isPlain_child, Bool.and_eq_true] at hplain
    obtain ⟨_, w3, hlog, hr⟩ := bind_ok.mp hr
    cases hlog
    obtain ⟨w4, hbody, hremove⟩ := ensure_ok.mp hr
    exact ⟨rendered, _, w4, hrendered, hwritable, hplain.2, hf1, hbody, hremove⟩

/-! ## One variant -/

theorem reflect_ok {document : Bytes} {r : Reflection} (hr : Generator.reflect document w = (.ok r, w')) :
    Described document r ∧ w'.tree = w.tree := by
  unfold Generator.reflect at hr
  cases hdeep : Json.overflows document with
  | true =>
    rw [hdeep, if_pos rfl] at hr
    cases hr
  | false =>
    rw [hdeep, if_neg (by decide)] at hr
    cases hread : Reflection.read (.bytes document) with
    | error problem =>
      rw [hread] at hr
      cases hr
    | ok r' =>
      rw [hread] at hr
      cases hr
      exact ⟨⟨hdeep, hread⟩, rfl⟩

/-- The names of shaders are not those of outputs. -/
theorem ne_outputs (hn : Stage.ofSuffix? (Path.suffixOf n) ≠ none) (stage : Stage) :
    n ≠ CrossCompiler.sourceName stage ∧ n ≠ CrossCompiler.reflectionName stage ∧ n ≠ "shader.hlsl" ∧
      n ≠ "shader.cso" := by
  refine ⟨?_, ?_, ?_, ?_⟩ <;> (rintro rfl; revert hn; cases stage <;> decide)

section
variable (hs : Scratch t0 h.here p s) (hf : Holds t0 s files w.tree) (hb : Follows h g.crossCompiler fxc b)
  (hp : g.crossCompiler.scratch = p) (hn : IsName n) {rendered : String} {stage : Stage}
  (hstage : Stage.ofPath? (.ofText (p.child n).text) = some stage)
  (hfile : files n = some (Text.toUtf8 rendered))
  (hclean : ∀ stage, files (CrossCompiler.sourceName stage) = none ∧
    files (CrossCompiler.reflectionName stage) = none)
include hs hf hb hp hn hstage hfile hclean

theorem translate_ok {v v' : VariantSources} {target : Target}
    (hr : g.translate h (p.child n).text v target w = (.ok v', w')) :
    Holds t0 s files w'.tree ∧ ∃ text description,
      Translated b g.crossCompiler (p.child n).text stage rendered target text description ∧
      (target = .gles100 → ∃ r, Described description r ∧
        v' = { Generator.withSource v target text with reflection := r }) ∧
      (target ≠ .gles100 → v' = Generator.withSource v target text) := by
  obtain ⟨⟨text, description⟩, w1, hconvert, hr⟩ := bind_ok.mp hr
  have hsource := (hs.readFile_eq_ok hf hn).mpr hfile
  obtain ⟨hf1, stage', hstage', htranslated⟩ := convert_ok hs hf hb hp hsource hclean hconvert
  rw [hstage, Option.some.injEq] at hstage'
  subst hstage'
  dsimp only at hr
  split at hr
  · next htarget =>
    obtain ⟨r, w2, hreflect, hr⟩ := bind_ok.mp hr
    cases hr
    obtain ⟨hdescribed, htree⟩ := reflect_ok hreflect
    rw [htree]
    exact ⟨hf1, text, description, htranslated, fun _ => ⟨r, hdescribed, rfl⟩, fun hne => absurd htarget hne⟩
  · next htarget =>
    cases hr
    exact ⟨hf1, text, description, htranslated, fun he => absurd he htarget, fun _ => rfl⟩

theorem translateAll_ok {v : VariantSources}
    (hr : Target.all.foldlM (g.translate h (p.child n).text) {} w = (.ok v, w')) :
    Holds t0 s files w'.tree ∧ Translations b g.crossCompiler (p.child n).text stage rendered v := by
  rw [Target.all, List.foldlM_cons] at hr
  obtain ⟨v1, w1, h1, hr⟩ := bind_ok.mp hr
  rw [List.foldlM_cons] at hr
  obtain ⟨v2, w2, h2, hr⟩ := bind_ok.mp hr
  rw [List.foldlM_cons] at hr
  obtain ⟨v3, w3, h3, hr⟩ := bind_ok.mp hr
  rw [List.foldlM_cons] at hr
  obtain ⟨v4, w4, h4, hr⟩ := bind_ok.mp hr
  rw [List.foldlM_nil] at hr
  cases hr
  obtain ⟨hf1, text1, description1, ht1, hv1, -⟩ := translate_ok hs hf hb hp hn hstage hfile hclean h1
  obtain ⟨hf2, text2, description2, ht2, -, hv2⟩ := translate_ok hs hf1 hb hp hn hstage hfile hclean h2
  obtain ⟨hf3, text3, description3, ht3, -, hv3⟩ := translate_ok hs hf2 hb hp hn hstage hfile hclean h3
  obtain ⟨hf4, text4, description4, ht4, -, hv4⟩ := translate_ok hs hf3 hb hp hn hstage hfile hclean h4
  obtain ⟨r, hdescribed, rfl⟩ := hv1 rfl
  cases hv2 (by decide)
  cases hv3 (by decide)
  cases hv4 (by decide)
  exact ⟨hf4, ⟨description1, ht1, hdescribed⟩, ⟨description2, ht2⟩, ⟨description3, ht3⟩, ⟨description4, ht4⟩⟩

end

/-- The sources of a variant: made from the rendering, on this tree, of the shader at this path. -/
def VariantOf (b : Behaviour) (c : CrossCompiler) (fxc : Bytecode.Fxc) (t : Tree) (here : Location) (path : Path)
    (args : VariantArgs) (v : VariantSources) : Prop :=
  ∃ stage rendered, Stage.ofPath? path = some stage ∧
    Shader.renderIn t here (.ofText path.text) args = .ok rendered ∧ Text.Writable rendered ∧
    isPlain path.name = true ∧ Derived b c fxc (c.scratch.child path.name).text stage rendered v

theorem Derived.unique {c : CrossCompiler} {file rendered : String} {stage : Stage} {v v' : VariantSources}
    (h : Derived b c fxc file stage rendered v) (h' : Derived b c fxc file stage rendered v') : v = v' := by
  obtain ⟨description, h100, -, hread⟩ := h.gles100
  obtain ⟨description', h100', -, hread'⟩ := h'.gles100
  obtain ⟨hes100, rfl⟩ := h100.unique h100'
  have hreflection := Except.ok.inj (hread.symm.trans hread')
  have hes300 := (h.gles300.choose_spec.unique h'.gles300.choose_spec).1
  have h130 := (h.glsl130.choose_spec.unique h'.glsl130.choose_spec).1
  have hhlsl := (h.hlsl40.choose_spec.unique h'.hlsl40.choose_spec).1
  have h150 : v.glsl150 = v'.glsl150 := by rw [h.glsl150, h'.glsl150, h130]
  have hbytecode := h.bytecode
  rw [hhlsl] at hbytecode
  have hcompiled := hbytecode.unique h'.bytecode
  obtain ⟨_, _, _, _, _, _, _⟩ := v
  simp_all only

theorem VariantOf.unique {c : CrossCompiler} {here : Location} {path : Path} {v v' : VariantSources}
    (h : VariantOf b c fxc t here path args v) (h' : VariantOf b c fxc t here path args v') : v = v' := by
  obtain ⟨stage, rendered, hstage, hrendered, -, -, hderived⟩ := h
  obtain ⟨stage', rendered', hstage', hrendered', -, -, hderived'⟩ := h'
  cases hstage.symm.trans hstage'
  cases hrendered.symm.trans hrendered'
  exact hderived.unique hderived'

section
variable (hs : Scratch t0 h.here p s) (hb : Follows h g.crossCompiler fxc b) (hp : g.crossCompiler.scratch = p)
  (hbytecode : g.bytecodeCompiler = fxc.compile h) (hfxc : fxc.scratch = p)
include hs hb hp hbytecode hfxc

/-- A variant is made from its shader alone, and the scratch directory is empty again. -/
theorem convertVariant_ok (hf : Holds t0 s noFiles w.tree) (hn : IsName n) {v : VariantSources}
    (hr : g.convertVariant h (d.child n) args w = (.ok v, w')) :
    Holds t0 s noFiles w'.tree ∧ VariantOf b g.crossCompiler fxc t0 h.here (d.child n) args v := by
  unfold Generator.convertVariant at hr
  rw [hp, hbytecode] at hr
  obtain ⟨stage, w1, hstageOf, hr⟩ := bind_ok.mp hr
  obtain ⟨hstage, hsame⟩ := stageOf_ok hstageOf
  subst w1
  rw [ofPath?_ofText_child d hn] at hstage
  obtain ⟨v1, w1, htranslate, hr⟩ := bind_ok.mp hr
  obtain ⟨rendered, w2, w3, hrendered, hwritable, hplain, hf2, hbody, hremove⟩ :=
    withRendered_ok hs hf hn htranslate
  have hne := ne_outputs (n := n) (by simp [hstage])
  -- while the shader is there, none of the outputs is
  have hclean (stage : Stage) :
      Function.update noFiles n (some (Text.toUtf8 rendered)) (CrossCompiler.sourceName stage) = none ∧
        Function.update noFiles n (some (Text.toUtf8 rendered)) (CrossCompiler.reflectionName stage) = none := by
    rw [Function.update_of_ne (hne stage).1.symm, Function.update_of_ne (hne stage).2.1.symm]
    exact ⟨rfl, rfl⟩
  have hstage' : Stage.ofPath? (.ofText (p.child n).text) = some stage := by
    rw [ofPath?_ofText_child p hn, hstage]
  have hfile : Function.update noFiles n (some (Text.toUtf8 rendered)) n = some (Text.toUtf8 rendered) :=
    Function.update_self ..
  obtain ⟨hf3, htranslations⟩ := translateAll_ok hs hf2 hb hp hn hstage' hfile hclean hbody
  have hf4 := removeScratch_ok hs hf3 hn hremove
  have hback : Function.update (Function.update noFiles n (some (Text.toUtf8 rendered))) n none = noFiles := by
    rw [Function.update_idem]
    exact Function.update_eq_self n noFiles
  rw [hback] at hf4
  obtain ⟨hlsl, w4, hcompile, hr⟩ := bind_ok.mp hr
  cases hr
  obtain ⟨hcompiled, hf5⟩ := compile_ok hs hf4 hb hfxc rfl rfl hcompile
  refine ⟨hf5, stage, rendered, ?_, hrendered, hwritable, ?_, ?_⟩
  · rw [Stage.ofPath?, Path.suffix, Path.name_child]
    exact hstage
  · rw [Path.name_child]
    exact hplain
  · rw [hp, Path.name_child]
    exact {
      gles100 := htranslations.gles100
      gles300 := htranslations.gles300
      glsl130 := htranslations.glsl130
      hlsl40 := htranslations.hlsl40
      bytecode := hcompiled
      glsl150 := rfl }

end

/-! ## All shaders -/

/-- The record of a shader: one set of sources for each variant. -/
def RecordOf (b : Behaviour) (g : Generator) (fxc : Bytecode.Fxc) (t : Tree) (here : Location) (path : Path)
    (record : ShaderRecord) : Prop :=
  record.name = path.name ∧
    List.Forall₂ (VariantOf b g.crossCompiler fxc t here path) g.config.variants record.variants

theorem names_of_forall₂ {paths : List Path} {records : List ShaderRecord}
    (h : List.Forall₂ (fun path record => record.name = path.name) paths records) :
    records.map (·.name) = paths.map Path.name := by
  rw [← List.forall₂_eq_eq_eq, List.forall₂_map_left_iff, List.forall₂_map_right_iff]
  exact h.flip

section
variable (hs : Scratch t0 h.here p s) (hb : Follows h g.crossCompiler fxc b) (hp : g.crossCompiler.scratch = p)
  (hbytecode : g.bytecodeCompiler = fxc.compile h) (hfxc : fxc.scratch = p)
include hs hb hp hbytecode hfxc

theorem convertShader_ok (hf : Holds t0 s noFiles w.tree) (hn : IsName n) {record : ShaderRecord}
    (hr : g.convertShader h (d.child n) w = (.ok record, w')) :
    Holds t0 s noFiles w'.tree ∧ RecordOf b g fxc t0 h.here (d.child n) record := by
  obtain ⟨variants, w1, hvariants, hr⟩ := bind_ok.mp hr
  obtain ⟨_, w2, hlog, hr⟩ := bind_ok.mp hr
  cases hlog
  cases hr
  have hstep : ∀ x ∈ g.config.variants.zipIdx, ∀ w w' v, Holds t0 s noFiles w.tree →
      inContext (Generator.variantContext (d.child n) x.2) (g.convertVariant h (d.child n) x.1) w = (.ok v, w') →
      Holds t0 s noFiles w'.tree ∧ VariantOf b g.crossCompiler fxc t0 h.here (d.child n) x.1 v :=
    fun x _ w w' v hw hx => convertVariant_ok hs hb hp hbytecode hfxc hw hn (inContext_ok.mp hx)
  obtain ⟨hf1, hall⟩ := mapM_ok hstep hvariants hf
  refine ⟨hf1, rfl, ?_⟩
  rw [← List.zipIdx_map_fst 0 g.config.variants, List.forall₂_map_left_iff]
  exact hall

end

/-- A run that succeeds gives one record for each shader, in the order of their names. All that is in a record
is made from the shader as it was at the start, and the scratch directory is empty again. -/
theorem run_derived (hs : Scratch w.tree h.here p s) (ht : w.tree.WellFormed) (hb : Follows h g.crossCompiler fxc b)
    (hp : g.crossCompiler.scratch = p) (hfxc : fxc.scratch = p) (hbytecode : g.bytecodeCompiler = fxc.compile h)
    {records : List ShaderRecord} (hr : g.run h w = (.ok records, w')) :
    Scratch w'.tree h.here p s ∧ w.tree.Same w'.tree ∧ ∃ shaders, g.discover h w = (.ok shaders, w) ∧
      shaders.Pairwise (fun path path' => path.name ≤ path'.name) ∧
      List.Forall₂ (RecordOf b g fxc w.tree h.here) shaders records := by
  obtain ⟨shaders, w1, hdiscover, hr⟩ := bind_ok.mp hr
  have hshaders := Generator.isName_of_discover_ok ht.names hdiscover
  obtain ⟨hsame, names, -, hsorted⟩ := Generator.discover_ok hdiscover
  subst w1
  obtain ⟨_, w2, hlog, hr⟩ := bind_ok.mp hr
  cases hlog
  have hstep : ∀ path ∈ shaders, ∀ w1 w2 record, Holds w.tree s noFiles w1.tree →
      g.convertShader h path w1 = (.ok record, w2) →
      Holds w.tree s noFiles w2.tree ∧ RecordOf b g fxc w.tree h.here path record := by
    intro path hpath w1 w2 record hw1 hx
    obtain ⟨n, hn, rfl⟩ := hshaders path hpath
    exact convertShader_ok hs hb hp hbytecode hfxc hw1 hn hx
  obtain ⟨hf, hall⟩ := mapM_ok hstep hr (hs.holds_none.mpr (Same.refl _))
  have hsame := hs.holds_none.mp hf
  refine ⟨hs.same hsame, hsame, shaders, hdiscover, ?_, hall⟩
  rw [hsorted]
  exact Generator.sorted_shadersAmong _ _ _ _

/-! A run whose bytecode compiler rejects every source for the compatible profile, and leaves an output behind. -/

def echo : Behaviour where
  cross := fun argv source =>
    ifPlain argv (.ok ({}, some (Text.toUtf8 (argv.getD 9 "") ++ source), some (Text.toUtf8 "\x7b\x7d")))
  bytecode := fun argv source =>
    ifPlain argv (.ok (if argv.getD 5 "" = Bytecode.fallbackProfile .vertex then ({}, some source)
      else ({ status := 1 }, some [])))

theorem plain_echo : echo.Plain := ⟨fun _ _ _ => ifPlain_eq_unfit, fun _ _ _ => ifPlain_eq_unfit⟩

def echoCross : CrossCompiler := ⟨"glslcc", .ofText "/w/shaders", .ofText "/w/tmp", false⟩

def echoBytecode : Bytecode.Fxc := ⟨"fxc", .ofText "/w/tmp"⟩

def echoHost : Host where
  here := ["w"]
  toolPath := []
  scratchRoot := "/w"
  scratchName := "tmp"
  tools := echo.tools ["w"] echoCross echoBytecode

def echoGenerator : Generator :=
  ⟨{ package := "gpu" }, echoCross, echoBytecode.compile echoHost⟩

def echoTree : Tree :=
  ⟨[(["w"], .directory), (["w", "tmp"], .directory), (["w", "shaders"], .directory),
    (["w", "shaders", "a.vert"], .file (Text.toUtf8 "x") false)]⟩

theorem scratch_echoTree : Scratch echoTree echoHost.here (.ofText "/w/tmp") ["w", "tmp"] where
  proper := Path.proper_ofText _
  not_root := by decide
  leads := rfl
  directory := rfl
  empty := empty_of_entries (by decide)

theorem run_echo : ∃ records w', echoGenerator.run echoHost { tree := echoTree } = (.ok records, w') ∧
    echoTree.Same w'.tree ∧ ∃ shaders w1, echoGenerator.discover echoHost { tree := echoTree } = (.ok shaders, w1) ∧
      List.Forall₂ (RecordOf echo echoGenerator echoBytecode echoTree echoHost.here) shaders records := by
  have hsucceeds : (echoGenerator.run echoHost { tree := echoTree }).1.toBool = true := by
    decide +kernel
  rcases hr : echoGenerator.run echoHost { tree := echoTree } with ⟨_ | records, w'⟩
  · rw [hr] at hsucceeds
    cases hsucceeds
  · have hfollows : Follows echoHost echoGenerator.crossCompiler echoBytecode echo := follows_tools echoHost plain_echo _ _
    obtain ⟨-, hsame, shaders, hdiscover, -, hrecords⟩ :=
      run_derived scratch_echoTree (by decide +kernel) hfollows rfl rfl rfl hr
    exact ⟨records, w', rfl, hsame, shaders, _, hdiscover, hrecords⟩

end ShaderBundle
