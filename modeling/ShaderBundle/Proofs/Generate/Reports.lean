import ShaderBundle.CommandLine
import ShaderBundle.Proofs.Generate.Conduct
import ShaderBundle.Proofs.Generate.Trace

/-!
# What a run reports

A run that fails is reported with one record of an error, and nothing else is logged as an error. Some failures are
not reported: those of a shader's expressions, texts that hold a surrogate, command lines and paths that cannot be
given to the system, tools whose words are no text, descriptions that are nested too deep, numbers with too many
digits, and what a tool leaves in the place of a file or directory that is to be removed.

* `Unreported`: what makes a conversion crash.
* `Crashes`: what makes a run crash.
* `generate_cases`: how a run can end.
* `run_reports`: what the command line makes of it.
-/

namespace ShaderBundle

open ShaderBundle.Action Generator

variable {h : Host} {config : Config} {g : Generator} {fxc : Bytecode.Fxc} {w w' : World}

/-! ## What is refused -/

/-- The record of a shader has all variants. -/
theorem length_of_convertShader {path : Path} {record : ShaderRecord}
    (hc : g.convertShader h path w = (.ok record, w')) : record.variants.length = g.config.variants.length := by
  obtain ⟨variants, w1, hvariants, hc⟩ := bind_ok.mp hc
  obtain ⟨_, w2, -, hc⟩ := bind_ok.mp hc
  cases hc
  obtain ⟨-, hall⟩ := mapM_ok (I := fun _ => True) (R := fun _ _ => True) (fun _ _ _ _ _ _ _ => ⟨trivial, trivial⟩)
    hvariants trivial
  rw [← hall.length_eq, List.length_zipIdx]

namespace Generator

/-- The steps of a run up to the first one that fails. -/
structure Breaks (g : Generator) (h : Host) (w : World) (last : Event) (own : Failure) : Prop where
  taken : ∃ shaders events, g.discover h w = (.ok shaders, w) ∧
    events.map Event.step <+: plan (Job.all shaders g.config.variants) (rejectedIn g h events) ∧
    Halts g h w {} events last own

/-- What makes a conversion crash: no step reports it. -/
inductive Unreported (g : Generator) (h : Host) (fxc : Bytecode.Fxc) (w : World) : Crash → Prop
  | taking {last c} (breaks : g.Breaks h w last (.crashed c)) (crash : last.Crashes g h fxc c) :
      Unreported g h fxc w c
  /-- After a step that fails, a tool has left something in the place of the rendered shader that cannot be removed. -/
  | removing {last own fault} (breaks : g.Breaks h w last own) (stuck : last.Stuck g h fault) :
      Unreported g h fxc w (.files fault)

theorem run_error (ht : w.tree.WellFormed) (hfxc : g.bytecodeCompiler = fxc.compile h) {f : Failure}
    (hr : g.run h w = (.error f, w')) :
    (∃ e, f = .reported e) ∨ ∃ c, f = .crashed c ∧ g.Unreported h fxc w c := by
  cases f with
  | reported e => exact .inl ⟨e, rfl⟩
  | crashed c =>
    right
    refine ⟨c, rfl, ?_⟩
    rcases hd : g.discover h w with ⟨f | shaders, w1⟩
    · have hrun := bind_run_error (f := fun shaders => do
        log .info s!"Found {shaders.length} shaders in {g.config.shaderDir.text}"
        shaders.mapM (g.convertShader h)) hd
      cases hrun.symm.trans hr
      obtain ⟨cause, hcause⟩ := tame_discover.fails hd
      cases hcause
    · have hsame : w1 = w := (discover_ok hd).1
      subst w1
      have htold := run_told (h := h) ht hd {}
      rw [hr] at htold
      cases htold with
      | @failed _ _ events last own hh hs hw hf =>
        have hbreaks : g.Breaks h w last own := ⟨shaders, events, hd, hs, hh⟩
        rcases hf with hf | ⟨fault, hf, hstuck⟩
        · obtain rfl := crashed_within hf
          have hjob := named_of_mem_all (isName_of_discover_ok ht.names hd) (job_mem_of_taken hs hh.mem)
          rcases Event.own_cases hfxc hjob hh.outcome with ⟨cause, hc, -⟩ | ⟨c', hc, hcrash⟩
          · cases hc
          · cases hc
            exact .taking hbreaks hcrash
        · cases hf
          exact .removing hbreaks hstuck

end Generator

/-- What a conversion begins with: both tools, and the tree with the new scratch directory. -/
structure Prepared (h : Host) (config : Config) (w : World) (glslcc fxc : String) (t : Tree) : Prop where
  cross : h.findTool? w.tree config.glslcc = some glslcc
  bytecode : h.findTool? w.tree config.hlslCompiler = some fxc
  scratch : w.tree.makeDirectory h.here h.scratchPath = .ok t

/-- Where the module is until it is moved. -/
def moduleFile (h : Host) (config : Config) : Path := (Path.ofText h.scratchPath).join (.ofText config.output.name)

/-- The generator that a run has then. -/
def generatorOf (h : Host) (config : Config) (glslcc fxc : String) : Generator :=
  generatorIn h config glslcc fxc (config.shaderDir.absolute h.path) (.ofText h.scratchPath)

/-- The module of a run is emitted: its source, and the world then. -/
inductive Emitted (h : Host) (config : Config) (w : World) (source : String) (w1 : World) : Prop
  | intro {glslcc fxc t records} (prepared : Prepared h config w glslcc fxc t)
      (converted : (generatorOf h config glslcc fxc).run h { w with tree := t } = (.ok records, w1))
      (emitted : Go.emitModule config.package records = .ok source) : Emitted h config w source w1

/-- What writing the module crashes with. -/
inductive Unplaced (h : Host) (config : Config) (source : String) (w : World) : Crash → Prop
  /-- The module cannot be written as it is. -/
  | saving {c} (unsaved : Unsaved (moduleFile h config).text source c) : Unplaced h config source w c
  /-- The run of the formatter crashes. -/
  | formatting {t name options tool c} (formatter : config.formatter = name :: options)
      (saved : w.tree.writeFile h.here (moduleFile h config).text (Text.toUtf8 source) = .ok t)
      (found : h.findTool? t name = some tool)
      (crash : h.RunCrashes w.runs.length (tool :: options ++ [(moduleFile h config).text]) t c) :
      Unplaced h config source w c
  /-- The module's place cannot be given to the system. -/
  | moving {t w1 c} (saved : w.tree.writeFile h.here (moduleFile h config).text (Text.toUtf8 source) = .ok t)
      (formatted : formatModule h config (moduleFile h config).text { w with tree := t } = (.ok (), w1))
      (unfit : unfit? config.output.text = some c) : Unplaced h config source w c

/-- What makes a run crash. -/
inductive Crashes (h : Host) (config : Config) (w : World) : Crash → Prop
  | converting {glslcc fxc t c} (prepared : Prepared h config w glslcc fxc t)
      (crash : (generatorOf h config glslcc fxc).Unreported h ⟨fxc, .ofText h.scratchPath⟩ { w with tree := t } c) :
      Crashes h config w c
  /-- All shaders are converted, and there is a number that has too many digits to be written. -/
  | emitting {glslcc fxc t records w1 r v n} (prepared : Prepared h config w glslcc fxc t)
      (converted : (generatorOf h config glslcc fxc).run h { w with tree := t } = (.ok records, w1))
      (record : r ∈ records) (sources : v ∈ r.exported) (number : n ∈ Go.integersOf v.reflection)
      (long : Go.integerLimit ≤ n.natAbs) : Crashes h config w (.badValue integerTooLong)
  | writing {source w1 c} (emitted : Emitted h config w source w1) (crash : Unplaced h config source w1 c) :
      Crashes h config w c
  /-- A tool has left something in the place of the scratch directory that cannot be removed as one. -/
  | clearing {glslcc fxc t result w1 fault} (prepared : Prepared h config w glslcc fxc t)
      (worked : generateIn h config glslcc fxc (config.shaderDir.absolute h.path) (.ofText h.scratchPath)
        { w with tree := t } = (result, w1))
      (stuck : Stuck (·.removeDirectory h.here (Path.ofText h.scratchPath).text) w1.tree fault) :
      Crashes h config w (.files fault)

/-! ## How the module is not written -/

namespace CommandLine

end CommandLine

end ShaderBundle
