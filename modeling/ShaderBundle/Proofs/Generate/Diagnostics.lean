import ShaderBundle.Proofs.Generate.Concurrence
import ShaderBundle.Proofs.Generate.Placed
import ShaderBundle.Proofs.Generate.Provenance

/-!
# The words of tools

What tools print is for the log, and for the words that are kept with a failure. Tools that do the same and say
something else make no other difference, as long as what they say is text: a run whose words are not ends with a crash.

* `SameDeeds`: such tools. `DeedsBy`: tools that do so on trees that are alike, too.
* `Garbled`: runs in which what the ones say is text, and what the others say is not.
* `concurs_convertShader`, `concurs_run`, `concurs_writeModule`: each stage of a run with the ones and the others.
* `generate_wordless`: a whole run.
-/

namespace ShaderBundle

open ShaderBundle.Action Generator

/-- What a run of a tool does, apart from what it says. -/
def deedOf (ran : ProcessResult × Tree) : Int × Tree := (ran.1.status, ran.2)

/-- Both fail to start with the same error, or end with the same status and the same files. -/
def SameDeeds (tools tools' : Tools) : Prop :=
  ∀ n argv t, (tools n argv t).map deedOf = (tools' n argv t).map deedOf

/-- A host with other tools in the place of its own. -/
abbrev Host.withTools (h : Host) (tools : Tools) : Host := { h with tools }

/-- What is said in both of them is text, or is not for the same reason. -/
def ReadAlike (r r' : ProcessResult) : Prop := Both (fun _ _ => True) r.read r'.read

/-- In so many-th run, of this command line, the words of the ones are text and those of the others are not, or not for
the same reason. -/
def Garbled (tools tools' : Tools) (n : Nat) (argv : List String) : Prop :=
  ∃ t r r' t', tools n argv t = .ok (r, t') ∧ tools' n argv t = .ok (r', t') ∧ ¬ReadAlike r r'

/-- On trees related by `T`, both fail to start with the same error, or end with the same status and such trees. What
they say is read alike, but for runs in `X`. -/
def DeedsBy (T : Tree → Tree → Prop) (X : Nat → List String → Prop) (tools tools' : Tools) : Prop :=
  ∀ n argv t t', T t t' →
    Both (fun ran ran' => ran.1.status = ran'.1.status ∧ T ran.2 ran'.2 ∧ (ReadAlike ran.1 ran'.1 ∨ X n argv))
      (tools n argv t) (tools' n argv t')

theorem SameDeeds.by_eq {tools tools' : Tools} (hs : SameDeeds tools tools') :
    DeedsBy Eq (Garbled tools tools') tools tools' := by
  rintro n argv t _ rfl
  have hdeed := hs n argv t
  cases hran : tools n argv t with
  | error e =>
    rw [hran] at hdeed
    cases hran' : tools' n argv t with
    | error e' =>
      rw [hran'] at hdeed
      cases hdeed
      exact .error e
    | ok p' =>
      rw [hran'] at hdeed
      cases hdeed
  | ok p =>
    rw [hran] at hdeed
    cases hran' : tools' n argv t with
    | error e' =>
      rw [hran'] at hdeed
      cases hdeed
    | ok p' =>
      rw [hran'] at hdeed
      obtain ⟨r, t1⟩ := p
      obtain ⟨r', t1'⟩ := p'
      obtain ⟨hstatus, htree⟩ := Prod.mk.inj (Except.ok.inj hdeed)
      dsimp only at hstatus htree
      subst t1'
      refine .ok ⟨hstatus, rfl, ?_⟩
      by_cases hread : ReadAlike r r'
      · exact .inl hread
      · exact .inr ⟨t, r, r', t1, hran, hran', hread⟩

/-- The same status, whatever has been said. -/
abbrev SameStatus (r r' : ProcessReport) : Prop := r.status = r'.status

section
variable {T : Tree → Tree → Prop} {X : Nat → List String → Prop} (hT : Tree.Likeness T) {h : Host} {tools : Tools}
  (hs : DeedsBy T X h.tools tools)

include hs

theorem concurs_runTool (argv : List String) :
    Concurs T X (Both SameStatus) (Action.run h argv) (Action.run (h.withTools tools) argv) where
  grows := (Starts.run h argv).grows
  grows' := (Starts.run _ argv).grows
  meets w w' hw := by
    have hruns : w.runs ++ [argv] = w'.runs ++ [argv] := by rw [hw.2]
    have hlast : (w.runs ++ [argv])[w.runs.length]? = some argv := by simp
    have hlast' : (w'.runs ++ [argv])[w.runs.length]? = some argv := by rw [← hruns, hlast]
    have hdeeds := hs w.runs.length argv w.tree w'.tree hw.1
    rw [run_run, run_run, ← hw.2]
    unfold Host.start ifPlain
    dsimp only
    cases argv.findSome? unfit? with
    | some c => exact .inl ⟨.error rfl, hw.1, hruns⟩
    | none =>
      dsimp only
      generalize h.tools w.runs.length argv w.tree = ran at hdeeds ⊢
      generalize tools w.runs.length argv w'.tree = ran' at hdeeds ⊢
      cases hdeeds with
      | error e => exact .inl ⟨.ok (.error e), hw.1, hruns⟩
      | @ok ran ran' hran =>
        obtain ⟨r, t⟩ := ran
        obtain ⟨r', t'⟩ := ran'
        obtain ⟨hstatus, htrees, hread | hx⟩ := hran
        · dsimp only [Except.mapError] at hread ⊢
          unfold ReadAlike at hread
          cases hr : r.read with
          | error fault =>
            rw [hr] at hread
            cases hr' : r'.read with
            | error fault' =>
              rw [hr'] at hread
              cases hread
              exact .inl ⟨.error rfl, htrees, hruns⟩
            | ok report' =>
              rw [hr'] at hread
              cases hread
          | ok report =>
            rw [hr] at hread
            cases hr' : r'.read with
            | error fault' =>
              rw [hr'] at hread
              cases hread
            | ok report' =>
              have hsame : report.status = report'.status := by
                rw [(ProcessResult.read_eq_ok.mp hr).2.2, (ProcessResult.read_eq_ok.mp hr').2.2]
                exact hstatus
              exact .inl ⟨.ok (.ok hsame), htrees, hruns⟩
        · refine .inr ⟨w.runs.length, argv, ?_, ?_, hx⟩
          · dsimp only [Except.mapError]
            cases r.read <;> exact hlast
          · dsimp only [Except.mapError]
            cases r'.read <;> exact hlast'

/-! ## The tools -/

omit hs in
theorem concurs_stageOf (path : String) :
    Concurs T X Eq (CrossCompiler.stageOf path) (CrossCompiler.stageOf path) := by
  unfold CrossCompiler.stageOf
  split
  · exact .pure rfl
  · exact .fail rfl

include hT

omit hs in
theorem concurs_takeOutputs (c : CrossCompiler) (path : String) (stage : Stage) (target : Target) :
    Concurs T X Eq (c.takeOutputs h path stage target) (c.takeOutputs (h.withTools tools) path stage target) := by
  unfold CrossCompiler.takeOutputs
  refine Concurs.ensure (Concurs.get_bind hT fun w w' hw => ?_)
    ((Concurs.discard hT h _).bind_eq fun _ => Concurs.discard hT h _)
  have houtputs : c.outputs h stage w.tree = c.outputs (h.withTools tools) stage w'.tree := by
    unfold CrossCompiler.outputs
    rw [hT.readFile hw.1, hT.readFile hw.1]
  rw [houtputs]
  cases c.outputs (h.withTools tools) stage w'.tree with
  | ok found => exact .pure rfl
  | error detail => exact .fail rfl

theorem concurs_convert (c : CrossCompiler) (path : String) (target : Target) :
    Concurs T X Eq (c.convert h path target) (c.convert (h.withTools tools) path target) := by
  unfold CrossCompiler.convert
  refine (concurs_stageOf path).bind_eq fun stage =>
    (concurs_runTool hs _).bind (.refl fun _ => rfl) fun r r' hr => ?_
  cases hr with
  | error e => exact .fail rfl
  | @ok r r' hstatus =>
    dsimp only
    refine (Concurs.logWords _ _ _ _).bind_eq fun _ => ?_
    rw [hstatus]
    split
    · exact (Concurs.logWords _ _ _ _).bind_eq fun _ => .fail rfl
    · exact (Concurs.logWords _ _ _ _).bind_eq fun _ => concurs_takeOutputs hT c path stage target

theorem concurs_fxc (c : Bytecode.Fxc) (source entry profile : String) :
    Concurs T X Eq (c.compile h source entry profile) (c.compile (h.withTools tools) source entry profile) := by
  have hread : Concurs T X Eq (Action.ask (·.readFile h.here c.outputPath)) (Action.ask (·.readFile h.here c.outputPath)) :=
    Concurs.ask fun _ _ ht => hT.readFile ht _ _
  unfold Bytecode.Fxc.compile
  refine (Concurs.save hT h tools _ _).bind_eq fun written => ?_
  cases written with
  | error e => exact .fail rfl
  | ok u =>
    refine Concurs.ensure ?_ ((Concurs.discard hT h _).bind_eq fun _ => Concurs.discard hT h _)
    refine (concurs_runTool hs _).bind (.refl fun _ => rfl) fun r r' hr => ?_
    cases hr with
    | error e => exact .fail rfl
    | @ok r r' hstatus =>
      dsimp only
      rw [hstatus]
      split
      · exact .fail rfl
      · refine hread.bind_eq fun found => ?_
        cases found with
        | ok bytes => exact .pure rfl
        | error e => exact .fail rfl

omit hs hT in
/-- Two compilers that concur do so with the fallback. -/
theorem concurs_compile {compiler compiler' : BytecodeCompiler}
    (hc : ∀ source entry profile, Concurs T X Eq (compiler source entry profile) (compiler' source entry profile))
    (source : String) (stage : Stage) (entry : String) :
    Concurs T X Eq (Bytecode.compile compiler source stage entry) (Bytecode.compile compiler' source stage entry) := by
  unfold Bytecode.compile
  refine Concurs.onRejection (hc _ _ _) fun _ _ _ _ _ => ?_
  refine (Concurs.log _ _ _ _).bind_eq fun _ => (Concurs.logWords _ _ _ _).bind_eq fun _ => ?_
  exact Concurs.onRejection (hc _ _ _) fun _ _ _ _ he => (Concurs.logWords _ _ _ _).bind_eq fun _ => .throw he

/-! ## Conversion -/

omit hs in
theorem concurs_withRendered {α : Type} (path : String) (args : VariantArgs) (scratch : Path)
    {body body' : Path → Action α} (hb : ∀ file, Concurs T X Eq (body file) (body' file)) :
    Concurs T X Eq (Shader.withRendered h path args scratch body)
      (Shader.withRendered (h.withTools tools) path args scratch body') := by
  have hrender : Concurs T X Eq (Shader.render h (.ofText path) args) (Shader.render (h.withTools tools) (.ofText path) args) := by
    refine Concurs.of_starts (Shader.starts_render h _ _) (Shader.starts_render _ _ _) fun w w' hw => ?_
    rw [Shader.render_run, Shader.render_run, (hT.same hw.1).renderIn]
    refine ⟨?_, hw⟩
    dsimp only
    cases Shader.renderIn w'.tree h.here (.ofText path) args with
    | ok text => exact .ok rfl
    | error f => exact .error rfl
  have hremove (file : String) :
      Concurs T X Eq (Shader.removeScratch h file) (Shader.removeScratch (h.withTools tools) file) :=
    Concurs.clear fun _ _ ht => hT.removeFile ht _ _
  unfold Shader.withRendered
  refine hrender.bind_eq fun text => (Concurs.save hT h tools _ _).bind_eq fun written => ?_
  cases written with
  | error e => exact .fail rfl
  | ok u => exact (Concurs.log _ _ _ _).bind_eq fun _ => (hb _).ensure (hremove _)

section
variable {g g' : Generator} (hcross : g.crossCompiler = g'.crossCompiler)
include hcross

theorem concurs_translate (file : String) (s : VariantSources) (target : Target) :
    Concurs T X Eq (g.translate h file s target) (g'.translate (h.withTools tools) file s target) := by
  unfold Generator.translate
  rw [hcross]
  refine (concurs_convert hT hs g'.crossCompiler file target).bind_eq fun ⟨text, document⟩ => ?_
  dsimp only
  split
  · refine Concurs.bind_eq ?_ fun r => .pure rfl
    unfold reflect
    split
    · exact .crash _
    · split
      · exact (Concurs.log _ _ _ _).bind_eq fun _ => .pure rfl
      · exact .fail rfl
  · exact .pure rfl

variable (hbytecode : ∀ source entry profile,
  Concurs T X Eq (g.bytecodeCompiler source entry profile) (g'.bytecodeCompiler source entry profile))
include hbytecode

theorem concurs_convertVariant (path : Path) (args : VariantArgs) :
    Concurs T X Eq (g.convertVariant h path args) (g'.convertVariant (h.withTools tools) path args) := by
  unfold Generator.convertVariant
  rw [hcross]
  refine (concurs_stageOf _).bind_eq fun stage => Concurs.bind_eq ?_ fun s =>
    (concurs_compile hbytecode _ _ _).bind_eq fun hlsl => .pure rfl
  exact concurs_withRendered hT _ _ _ fun file => Concurs.foldlM fun s target =>
    concurs_translate hT hs hcross file.text s target

variable (hconfig : g.config = g'.config)
include hconfig

theorem concurs_convertShader (path : Path) :
    Concurs T X Eq (g.convertShader h path) (g'.convertShader (h.withTools tools) path) := by
  unfold Generator.convertShader
  rw [hconfig]
  refine Concurs.bind_eq (Concurs.mapM fun x _ => ?_) fun variants => (Concurs.log _ _ _ _).bind_eq fun _ => .pure rfl
  exact .inContext _ (concurs_convertVariant hT hs hcross hbytecode path x.1)

theorem concurs_convertShaders (shaders : List Path) :
    Concurs T X Eq (shaders.mapM (g.convertShader h)) (shaders.mapM (g'.convertShader (h.withTools tools))) :=
  Concurs.mapM fun path _ => concurs_convertShader hT hs hcross hbytecode hconfig path

end

end

section
variable {h : Host} {tools : Tools} {X : Nat → List String → Prop} (hs : DeedsBy Eq X h.tools tools)

theorem concurs_resolveTool (name : String) :
    Concurs Eq X Eq (resolveTool h name) (resolveTool (h.withTools tools) name) := by
  unfold resolveTool
  refine Concurs.get_bind .eq fun w w' hw => ?_
  have hfind : (h.withTools tools).findTool? w'.tree name = h.findTool? w'.tree name := rfl
  rw [hw.1, hfind]
  cases h.findTool? w'.tree name with
  | some path => exact .pure rfl
  | none => exact .fail rfl

theorem concurs_placeModule (file output : Path) :
    Concurs Eq X Eq (placeModule h file output) (placeModule (h.withTools tools) file output) := by
  refine (Concurs.move h tools _ _ _).bind_eq fun r => ?_
  cases r with
  | ok u => exact .pure rfl
  | error fault => exact .fail rfl

include hs

theorem concurs_run {g g' : Generator} (hcross : g.crossCompiler = g'.crossCompiler)
    (hbytecode : ∀ source entry profile,
      Concurs Eq X Eq (g.bytecodeCompiler source entry profile) (g'.bytecodeCompiler source entry profile))
    (hconfig : g.config = g'.config) : Concurs Eq X Eq (g.run h) (g'.run (h.withTools tools)) := by
  have hdiscover : Concurs Eq X Eq (g.discover h) (g'.discover (h.withTools tools)) := by
    unfold discover
    rw [hconfig]
    refine Concurs.get_bind .eq fun w w' hw => ?_
    rw [hw.1]
    dsimp only
    split
    · exact .pure rfl
    · exact .fail rfl
  unfold Generator.run
  refine hdiscover.bind_eq fun shaders => (Concurs.log _ _ _ _).bind_eq fun _ => ?_
  exact concurs_convertShaders .eq hs hcross hbytecode hconfig shaders

/-! ## The module -/

theorem concurs_formatModule (config : Config) (file : String) :
    Concurs Eq X Eq (formatModule h config file) (formatModule (h.withTools tools) config file) := by
  unfold formatModule
  split
  · exact .pure rfl
  · refine (concurs_resolveTool _).bind_eq fun tool =>
      (concurs_runTool hs _).bind (.refl fun _ => rfl) fun r r' hr => ?_
    cases hr with
    | error e => exact .fail rfl
    | @ok r r' hstatus =>
      dsimp only
      rw [hstatus]
      split
      · exact (Concurs.logWords _ _ _ _).bind_eq fun _ => .fail rfl
      · exact .pure rfl

theorem concurs_writeModule (config : Config) (source : String) (scratch : Path) :
    Concurs Eq X Eq (writeModule h config source scratch) (writeModule (h.withTools tools) config source scratch) := by
  unfold writeModule
  refine (Concurs.save .eq h tools _ _).bind_eq fun written => ?_
  cases written with
  | error e => exact .fail rfl
  | ok u => exact (concurs_formatModule hs config _).bind_eq fun _ => (concurs_placeModule _ _).bind_eq fun _ => .pure rfl

/-! ## The whole run -/

theorem concurs_generateIn (config : Config) (glslcc fxc : String) (shaderDir scratch : Path) :
    Concurs Eq X Eq (generateIn h config glslcc fxc shaderDir scratch)
      (generateIn (h.withTools tools) config glslcc fxc shaderDir scratch) := by
  have hrun : Concurs Eq X Eq ((generatorIn h config glslcc fxc shaderDir scratch).run h)
      ((generatorIn (h.withTools tools) config glslcc fxc shaderDir scratch).run (h.withTools tools)) :=
    concurs_run hs rfl (concurs_fxc .eq hs _) rfl
  refine hrun.bind_eq fun records => ?_
  split
  · exact concurs_writeModule hs config _ scratch
  · exact .crash _

theorem concurs_generate (config : Config) :
    Concurs Eq X Eq (generate h config) (generate (h.withTools tools) config) := by
  have hmake : Concurs Eq X Eq (makeScratch h) (makeScratch (h.withTools tools)) := by
    refine (Concurs.attempt (Concurs.both_eq _)).bind_eq fun made => ?_
    cases made with
    | ok u => exact .pure rfl
    | error e => exact .fail rfl
  have hremove (scratch : Path) :
      Concurs Eq X Eq (removeScratchDir h scratch) (removeScratchDir (h.withTools tools) scratch) :=
    Concurs.clear (Concurs.both_eq _)
  unfold generate
  refine (concurs_resolveTool _).bind_eq fun glslcc => (concurs_resolveTool _).bind_eq fun fxc => ?_
  refine Concurs.get_bind .eq fun w w' hw => ?_
  have hpath : (h.withTools tools).path = h.path := rfl
  rw [hw.1, hpath]
  dsimp only
  split
  · exact .fail rfl
  · refine hmake.bind_eq fun scratch => ?_
    refine ((concurs_generateIn hs config glslcc fxc _ scratch).ensure (hremove scratch)).bind_eq fun output => ?_
    exact (Concurs.log _ _ _ _).bind_eq fun _ => .pure rfl

end

/-- Whatever the tools say, a run gives the same path, or fails with the same failure, whose message is the same, but
for the words kept with it. It leaves the same files, and has run the same commands. Otherwise there is a run that both
have made as so many-th in which what the ones said was text, and what the others said was not. -/
theorem generate_wordless {h : Host} {tools : Tools} (hs : SameDeeds h.tools tools) (config : Config) (w : World) :
    ((generate h config w).1.mapError Failure.withoutWords =
        (generate (h.withTools tools) config w).1.mapError Failure.withoutWords ∧
      (generate h config w).1.mapError Failure.message =
        (generate (h.withTools tools) config w).1.mapError Failure.message ∧
      (generate h config w).2.tree = (generate (h.withTools tools) config w).2.tree ∧
      (generate h config w).2.runs = (generate (h.withTools tools) config w).2.runs) ∨
    ∃ n argv, (generate h config w).2.runs[n]? = some argv ∧
      (generate (h.withTools tools) config w).2.runs[n]? = some argv ∧ Garbled h.tools tools n argv := by
  refine ((concurs_generate hs.by_eq config).meets w w (Alike.refl w)).imp_left fun ⟨hresult, htree, hruns⟩ => ?_
  obtain ⟨hfailure, hmessage⟩ := hresult.mapError
  exact ⟨hfailure, hmessage, htree, hruns⟩

/-! A tool that always fails, and says so in one language or another, or in bytes that are no text. -/

def complaining (words : Words) : Tools := fun _ _ t => .ok ({ status := 1, stderr := words }, t)

def latin : Text.DecodeFault := ⟨"utf-8", 3, 1, 0xe9, "unexpected end of data"⟩

theorem generate_complaining : ∃ e w1 w2,
    generate (deadHost.withTools (complaining (.ok "Fehler"))) { package := "gpu" } { tree := deadTree } =
      (.error (.reported e), w1) ∧
    generate (deadHost.withTools (complaining (.error latin))) { package := "gpu" } { tree := deadTree } =
      (.error (.crashed (.undecodable latin)), w2) ∧
    ∃ n argv, w1.runs[n]? = some argv ∧ w2.runs[n]? = some argv ∧
      Garbled (complaining (.ok "Fehler")) (complaining (.error latin)) n argv := by
  have hreported : (match generate (deadHost.withTools (complaining (.ok "Fehler"))) { package := "gpu" }
        { tree := deadTree } with
      | (.error (.reported _), _) => true
      | (.error (.crashed _), _) => false
      | (.ok _, _) => false) = true := by
    decide +kernel
  have hcrashed : (match generate (deadHost.withTools (complaining (.error latin))) { package := "gpu" }
        { tree := deadTree } with
      | (.error (.crashed c), _) => decide (c = .undecodable latin)
      | (.error (.reported _), _) => false
      | (.ok _, _) => false) = true := by
    decide +kernel
  have hsame : SameDeeds (deadHost.withTools (complaining (.ok "Fehler"))).tools (complaining (.error latin)) :=
    fun _ _ _ => rfl
  have hruns := generate_wordless hsame { package := "gpu" } { tree := deadTree }
  rcases hg : generate (deadHost.withTools (complaining (.ok "Fehler"))) { package := "gpu" } { tree := deadTree } with
    ⟨(e | c) | output, w1⟩
  · rcases hg' : generate (deadHost.withTools (complaining (.error latin))) { package := "gpu" } { tree := deadTree } with
      ⟨(e' | c) | output, w2⟩
    · rw [hg'] at hcrashed
      cases hcrashed
    · rw [hg'] at hcrashed
      obtain rfl : c = .undecodable latin := of_decide_eq_true hcrashed
      rw [hg, hg'] at hruns
      rcases hruns with ⟨hfailure, -⟩ | hgarbled
      · cases hfailure
      · exact ⟨e, w1, w2, rfl, rfl, hgarbled⟩
    · rw [hg'] at hcrashed
      cases hcrashed
  · rw [hg] at hreported
    cases hreported
  · rw [hg] at hreported
    cases hreported

end ShaderBundle
