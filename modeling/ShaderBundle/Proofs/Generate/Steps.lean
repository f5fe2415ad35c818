import ShaderBundle.Proofs.Generate.Discovery
import ShaderBundle.Proofs.Tools.Conduct

/-!
# Steps of a run

A run works on one variant of one shader after the other. For each of them the shader is rendered, translated to
each target and cleared away, and then its HLSL text is compiled for the compatible profile and, if that is
rejected, for the other one. These are the steps; each starts one run of a tool or none.

* `Job`, `Task`, `Job.tasks`: the steps for a variant of a shader.
* `Event`: a step that has been taken, and what has come of it.
* `Passes`, `Halts`: steps that go on from each other, and a failing one at their end.
* `Event.runs_made`: what a step runs.
* `Event.Crashes`, `Event.own_cases`: how it fails.
-/

namespace ShaderBundle

open ShaderBundle.Action

namespace Shader

/-- Renders a shader to its scratch file. -/
def prepare (h : Host) (path : String) (args : VariantArgs) (scratch : Path) : Action Path := do
  let text ← render h (.ofText path) args
  let file := scratchFile scratch path
  match ← save h file.text text with
  | .error e => fail (.file (.cannotWrite file.text e.message) (some file.text))
  | .ok () =>
    log .debug s!"Rendered {path} to {file.text}"
    return file

theorem withRendered_eq {α : Type} (h : Host) (path : String) (args : VariantArgs) (scratch : Path)
    (body : Path → Action α) :
    withRendered h path args scratch body = (do
      let file ← prepare h path args scratch
      ensure (body file) (removeScratch h file.text)) := by
  funext w
  unfold withRendered prepare
  rw [bind_run, bind_run, bind_run]
  rcases render h (.ofText path) args w with ⟨_ | text, w1⟩
  · rfl
  · dsimp only
    rw [bind_run, bind_run]
    rcases save h (scratchFile scratch path).text text w1 with ⟨f | e | u, w2⟩
    · rfl
    · rfl
    · dsimp only
      rw [bind_run, bind_run, log_run]
      rfl

theorem render_run (h : Host) (path : Path) (args : VariantArgs) (w : World) :
    render h path args w = (renderIn w.tree h.here path args, w) := by
  have hget : (get : Action World) w = (.ok w, w) := rfl
  unfold render
  rw [bind_run_ok hget]
  cases renderIn w.tree h.here path args <;> rfl

theorem starts_render (h : Host) (path : Path) (args : VariantArgs) : Starts [] (render h path args) := by
  intro w
  rw [render_run]
  exact Ran.none_iff.mpr rfl

theorem renderIn_error {t : Tree} {here : Location} {path : Path} {args : VariantArgs} {f : Failure}
    (hr : renderIn t here path args = .error f) : f.Staged ∨ ∃ c, f = .crashed c := by
  unfold renderIn at hr
  cases hx : Template.render (libraryOf t here path.parent.text) path.name args with
  | ok text =>
    rw [hx] at hr
    cases hr
  | error stop =>
    rw [hx] at hr
    cases hr
    cases stop with
    | crash c => exact .inr ⟨c, rfl⟩
    | missing | malformed | undefined | undecodable => exact .inl ⟨_, rfl, nofun⟩

section
variable {h : Host} {path : String} {args : VariantArgs} {scratch file : Path} {f : Failure} {w w' : World}

theorem prepare_ok (hp : prepare h path args scratch w = (.ok file, w')) :
    file = scratchFile scratch path := by
  obtain ⟨text, w1, -, hp⟩ := bind_ok.mp hp
  obtain ⟨r, w2, -, hp⟩ := bind_ok.mp hp
  cases r with
  | error e => cases hp
  | ok u =>
    obtain ⟨_, w3, -, hp⟩ := bind_ok.mp hp
    exact (Except.ok.inj (congrArg Prod.fst hp)).symm

/-- It is reported, or an expression of the shader crashes, or what is rendered cannot be written. -/
theorem prepare_error (hp : prepare h path args scratch w = (.error f, w')) :
    f.Staged ∨ ∃ c, f = .crashed c ∧ (renderIn w.tree h.here (.ofText path) args = .error (.crashed c) ∨
      ∃ text, renderIn w.tree h.here (.ofText path) args = .ok text ∧
        Unsaved (scratchFile scratch path).text text c) := by
  unfold prepare at hp
  rw [bind_run, render_run] at hp
  cases hr : renderIn w.tree h.here (.ofText path) args with
  | error f' =>
    rw [hr] at hp
    cases hp
    exact (renderIn_error hr).imp_right fun ⟨c, hc⟩ => ⟨c, hc, .inl (by rw [hc])⟩
  | ok text =>
    rw [hr] at hp
    rcases bind_error.mp hp with hsave | ⟨r, w1, -, hp⟩
    · obtain ⟨-, c, rfl, hc⟩ := save_error hsave
      exact .inr ⟨c, rfl, .inr ⟨text, rfl, hc⟩⟩
    · cases r with
      | error e =>
        cases hp
        exact .inl ⟨_, rfl, nofun⟩
      | ok u =>
        rcases bind_error.mp hp with hlog | ⟨_, w2, -, hp⟩
        · cases hlog
        · cases hp

end

end Shader

namespace Generator

/-! ## Jobs and tasks -/

/-- A variant of a shader, and the places that both have among the others. -/
structure Job where
  shader : Nat
  path : Path
  stage : Stage
  variant : Nat
  args : VariantArgs
  deriving DecidableEq

inductive Task
  | render
  | translate (target : Target)
  /-- Removes the rendered shader. -/
  | clear
  /-- Compiles for level 9.1. -/
  | compatible
  /-- Compiles for plain 4.0. -/
  | fallback
  deriving DecidableEq

def Task.Compiles (task : Task) : Prop := task = .compatible ∨ task = .fallback

instance (task : Task) : Decidable task.Compiles := inferInstanceAs (Decidable (_ ∨ _))

variable (g : Generator) (h : Host) (fxc : Bytecode.Fxc)

namespace Job

/-- The jobs for a shader, in the order of the variants. -/
def ofShader (variants : List VariantArgs) (shader : Nat) (path : Path) : List Job :=
  match Stage.ofPath? path with
  | some stage => variants.zipIdx.map fun (args, variant) => ⟨shader, path, stage, variant, args⟩
  | none => []

/-- The jobs of a run, in the order of the shaders. -/
def all (shaders : List Path) (variants : List VariantArgs) : List Job :=
  shaders.zipIdx.flatMap fun (path, shader) => ofShader variants shader path

variable (job : Job)

/-- What an error in it is said to be about. -/
def context : String := variantContext job.path job.variant

/-- Where the rendered shader is. -/
def file : Path := g.crossCompiler.scratch.child job.path.name

/-- Its tasks in their order, the last one only if the one before is rejected. -/
def tasks (rejected : Bool) : List Task :=
  .render :: Target.all.map .translate ++ [.clear, .compatible] ++ if rejected then [.fallback] else []

def profile : Task → String
  | .fallback => Bytecode.fallbackProfile job.stage
  | _ => Bytecode.compatibleProfile job.stage

/-- The sources with the bytecode, for the profile of a task, of their HLSL text. -/
def compile (task : Task) (s : VariantSources) : Action VariantSources := do
  let hlsl ← g.bytecodeCompiler s.hlslText Bytecode.defaultEntry (job.profile task)
  return { s with hlsl, glsl150 := Glsl.to150 s.glsl130 }

/-- A task, given the sources that have been made so far. -/
def perform (task : Task) (s : VariantSources) : Action VariantSources :=
  match task with
  | .render => do
    let _ ← Shader.prepare h job.path.text job.args g.crossCompiler.scratch
    return {}
  | .translate target => g.translate h (job.file g).text s target
  | .clear => do
    Shader.removeScratch h (job.file g).text
    return s
  | .compatible | .fallback => job.compile g task s

/-- The runs of tools in a task. -/
def commands : Task → List (List String)
  | .translate target => [g.crossCompiler.command (job.file g).text job.stage target]
  | .compatible => [fxc.command Bytecode.defaultEntry (Bytecode.compatibleProfile job.stage)]
  | .fallback => [fxc.command Bytecode.defaultEntry (Bytecode.fallbackProfile job.stage)]
  | .render | .clear => []

theorem perform_render (s : VariantSources) : job.perform g h .render s = (do
    let _ ← Shader.prepare h job.path.text job.args g.crossCompiler.scratch
    return {}) := rfl

theorem perform_clear (s : VariantSources) : job.perform g h .clear s = (do
    Shader.removeScratch h (job.file g).text
    return s) := rfl

theorem perform_compiles {task : Task} (ht : task.Compiles) (s : VariantSources) :
    job.perform g h task s = job.compile g task s := by
  rcases ht with rfl | rfl <;> rfl

theorem commands_compiles {task : Task} (ht : task.Compiles) :
    job.commands g fxc task = [fxc.command Bytecode.defaultEntry (job.profile task)] := by
  rcases ht with rfl | rfl <;> rfl

end Job

/-! ## Events -/

/-- A step that is taken: with these sources made so far, and in this world. -/
structure Event where
  job : Job
  task : Task
  sources : VariantSources
  world : World

namespace Event

variable (e : Event)

def step : Job × Task := (e.job, e.task)

def outcome : Except Failure VariantSources := (e.job.perform g h e.task e.sources e.world).1

def after : World := (e.job.perform g h e.task e.sources e.world).2

/-- The rendered shader cannot be removed after the step. -/
def Stuck (fault : FileError) : Prop :=
  Action.Stuck (·.removeFile h.here (e.job.file g).text) (e.after g h).tree fault

/-- The source has been rejected for the compatible profile. -/
def rejected : Bool :=
  match e.task, e.outcome g h with
  | .compatible, .error (.reported ⟨.bytecode _ _, _⟩) => true
  | _, _ => false

/-- The sources that the next step has, if the step has not failed. A rejected source is no failure yet. -/
def next? : Option VariantSources :=
  match e.outcome g h with
  | .ok s => some s
  | .error _ => if e.rejected g h then some e.sources else none

end Event

/-- The source of a job has been rejected for the compatible profile. -/
def rejectedIn (events : List Event) (job : Job) : Bool :=
  events.any fun e => decide (e.job = job) && e.rejected g h

/-- The steps of jobs, given which of them are rejected. -/
def plan (jobs : List Job) (rejected : Job → Bool) : List (Job × Task) :=
  jobs.flatMap fun job => (Job.tasks (rejected job)).map (job, ·)

/-- Worlds that differ by their logs alone. -/
def Alike (w w' : World) : Prop := w.tree = w'.tree ∧ w.runs = w'.runs

/-- These steps are taken one after the other, and none of them fails. -/
inductive Passes : World → VariantSources → List Event → World → VariantSources → Prop
  | nil {w w' s} (h : Alike w w') : Passes w s [] w' s
  | cons {w w' s s' e events} (ha : Alike w e.world) (hn : e.next? g h = some s)
      (hrest : Passes (e.after g h) s events w' s') : Passes w e.sources (e :: events) w' s'

/-- The last one of these steps fails, none of the others does. -/
structure Halts (w : World) (s : VariantSources) (events : List Event) (last : Event) (own : Failure) : Prop where
  passed : ∃ init w1, events = init ++ [last] ∧ Passes g h w s init w1 last.sources ∧ Alike w1 last.world
  failed : last.next? g h = none
  outcome : last.outcome g h = .error own

variable {g h fxc} {w w' w0 : World} {s s' s1 : VariantSources} {events events' : List Event} {e last : Event}
  {own : Failure} {job : Job} {task : Task}

/-! ## Going on -/

theorem Alike.refl (w : World) : Alike w w := ⟨rfl, rfl⟩

theorem Alike.trans (ha : Alike w0 w) (ha' : Alike w w') : Alike w0 w' :=
  ⟨ha.1.trans ha'.1, ha.2.trans ha'.2⟩

theorem alike_logged (w : World) (log : List (Level × String)) : Alike w { w with log } := ⟨rfl, rfl⟩

theorem Event.next?_of_ok (ho : e.outcome g h = .ok s) : e.next? g h = some s := by
  unfold next?
  rw [ho]

theorem Event.rejected_eq_true : e.rejected g h = true ↔ e.task = .compatible ∧
    ∃ profile words context, e.outcome g h = .error (.reported ⟨.bytecode profile words, context⟩) := by
  unfold rejected
  split
  · next profile words context ht ho => exact ⟨fun _ => ⟨ht, _, _, _, ho⟩, fun _ => rfl⟩
  · next hnot =>
    constructor
    · intro hr
      cases hr
    · rintro ⟨ht, profile, words, context, ho⟩
      exact (hnot _ _ _ ht ho).elim

theorem Event.rejected_of_ok (ho : e.outcome g h = .ok s) : e.rejected g h = false := by
  rw [Bool.eq_false_iff, ne_eq, rejected_eq_true, ho]
  rintro ⟨-, profile, words, context, ho⟩
  cases ho

/-- The verdict on a source is that of one kind of step. -/
theorem Event.rejected_of_task (ht : e.task ≠ .compatible) : e.rejected g h = false := by
  rw [Bool.eq_false_iff, ne_eq, rejected_eq_true]
  exact fun hr => ht hr.1

theorem Event.next?_of_error {f : Failure} (ho : e.outcome g h = .error f) (hr : e.rejected g h = false) :
    e.next? g h = none := by
  unfold next?
  rw [ho, hr]
  rfl

theorem Event.next?_of_rejected (hr : e.rejected g h = true) : e.next? g h = some e.sources := by
  unfold next?
  cases ho : e.outcome g h with
  | ok s =>
    rw [rejected_of_ok ho] at hr
    cases hr
  | error f =>
    dsimp only
    rw [hr]
    rfl

namespace Passes

theorem of_alike (ha : Alike w0 w) (hp : Passes g h w s events w' s') : Passes g h w0 s events w' s' := by
  cases hp with
  | nil h => exact .nil (ha.trans h)
  | cons h hn hrest => exact .cons (ha.trans h) hn hrest

theorem alike (hp : Passes g h w s events w0 s') (ha : Alike w0 w') : Passes g h w s events w' s' := by
  induction hp with
  | nil h => exact .nil (h.trans ha)
  | cons h hn _ ih => exact .cons h hn (ih ha)

theorem append (hp : Passes g h w s events w0 s1) (hp' : Passes g h w0 s1 events' w' s') :
    Passes g h w s (events ++ events') w' s' := by
  induction hp with
  | nil h => exact hp'.of_alike h
  | cons h hn _ ih => exact .cons h hn (ih hp')

theorem single (hn : e.next? g h = some s) : Passes g h e.world e.sources [e] (e.after g h) s :=
  .cons (.refl _) hn (.nil (.refl _))

theorem halts (hp : Passes g h w s events w0 s1) (hh : Halts g h w0 s1 events' last own) :
    Halts g h w s (events ++ events') last own := by
  obtain ⟨⟨init, w1, rfl, hinit, ha⟩, hfailed, houtcome⟩ := hh
  exact ⟨⟨events ++ init, w1, by rw [List.append_assoc], hp.append hinit, ha⟩, hfailed, houtcome⟩

theorem isSome_next? (hp : Passes g h w s events w' s') : ∀ e ∈ events, (e.next? g h).isSome := by
  induction hp with
  | nil => exact fun e he => absurd he List.not_mem_nil
  | cons ha hn _ ih =>
    intro e he
    rcases List.mem_cons.mp he with rfl | he
    · exact Option.isSome_of_eq_some hn
    · exact ih e he

end Passes

theorem Halts.single (hn : e.next? g h = none) (ho : e.outcome g h = .error own) :
    Halts g h e.world e.sources [e] e own :=
  ⟨⟨[], e.world, rfl, .nil (.refl _), .refl _⟩, hn, ho⟩

theorem Halts.mem (hh : Halts g h w s events last own) : last ∈ events := by
  obtain ⟨init, _, rfl, -⟩ := hh.passed
  exact List.mem_append_right _ List.mem_cons_self

/-! ## What a step runs -/

theorem starts_prepare (h : Host) (path : String) (args : VariantArgs) (scratch : Path) :
    Starts [] (Shader.prepare h path args scratch) := by
  unfold Shader.prepare
  refine (Shader.starts_render h _ _).bind fun text => (Starts.save _ _ _).bind fun r => ?_
  cases r with
  | error e => exact .fail _
  | ok u => exact (Starts.log _ _).bind fun _ => .pure _

theorem starts_reflect (document : Bytes) : Starts [] (reflect document) := by
  unfold reflect
  split
  · exact .crash _
  · split
    · exact (Starts.log _ _).bind fun _ => .pure _
    · exact .fail _

/-- The shader is a file of a directory, and has its suffix. -/
def Job.Named (job : Job) : Prop :=
  ∃ (d : Path) (n : String), IsName n ∧ job.path = d.child n ∧ Stage.ofSuffix? (Path.suffixOf n) = some job.stage

namespace Job.Named

theorem stage (hjob : job.Named) : Stage.ofPath? (.ofText job.path.text) = some job.stage := by
  obtain ⟨d, n, hn, hpath, hstage⟩ := hjob
  rw [hpath, ofPath?_ofText_child d hn, hstage]

theorem join (hjob : job.Named) (scratch : Path) :
    Shader.scratchFile scratch job.path.text = scratch.child job.path.name := by
  obtain ⟨d, n, hn, hpath, -⟩ := hjob
  rw [hpath, Shader.scratchFile_child d scratch hn, Path.name_child]

theorem stage_file (hjob : job.Named) (g : Generator) : Stage.ofPath? (.ofText (job.file g).text) = some job.stage := by
  obtain ⟨d, n, hn, hpath, hstage⟩ := hjob
  rw [Job.file, hpath, Path.name_child, ofPath?_ofText_child _ hn, hstage]

end Job.Named

theorem starts_translate (hjob : job.Named) (s : VariantSources) (target : Target) :
    Starts [g.crossCompiler.command (job.file g).text job.stage target]
      (g.translate h (job.file g).text s target) := by
  unfold translate
  refine (CrossCompiler.starts_convert (hjob.stage_file g)).bind fun out => ?_
  dsimp only
  split
  · exact (starts_reflect _).bind fun _ => .pure _
  · exact .pure _

/-- A step that does not compile runs what belongs to it. -/
theorem starts_perform (hjob : job.Named) (ht : ¬task.Compiles) (s : VariantSources) :
    Starts (job.commands g fxc task) (job.perform g h task s) := by
  unfold Job.perform Job.commands
  cases task with
  | render => exact (starts_prepare h _ _ _).bind fun _ => .pure _
  | translate target => exact starts_translate hjob s target
  | clear => exact (Starts.clear _).bind fun _ => .pure _
  | compatible => exact absurd (.inl rfl) ht
  | fallback => exact absurd (.inr rfl) ht

section
variable (hfxc : g.bytecodeCompiler = fxc.compile h)
include hfxc

/-- Only where the source is not written there is no run. -/
theorem runs_compile (job : Job) (task : Task) (s : VariantSources) (w : World) :
    (∃ f w', job.compile g task s w = (.error f, w') ∧ w'.runs = w.runs ∧
      ∀ profile words context, f ≠ .reported ⟨.bytecode profile words, context⟩) ∨
      (job.compile g task s w).2.runs = w.runs ++ [fxc.command Bytecode.defaultEntry (job.profile task)] := by
  unfold Job.compile
  rw [hfxc]
  rcases fxc.starts_compile (h := h) s.hlslText Bytecode.defaultEntry (job.profile task) w with
    ⟨f, w1, hc, hruns, hnot⟩ | hruns
  · exact .inl ⟨f, w1, bind_run_error hc, hruns, hnot⟩
  · right
    rw [bind_pure_run]
    exact hruns

/-- A step runs what belongs to it, or it has failed before. -/
theorem Event.runs_made (hjob : e.job.Named) :
    (e.after g h).runs = e.world.runs ++ e.job.commands g fxc e.task ∨
      e.next? g h = none ∧ (e.after g h).runs = e.world.runs := by
  by_cases ht : e.task.Compiles
  · have hperform := Job.perform_compiles g h e.job ht e.sources
    have hafter : e.after g h = (e.job.compile g e.task e.sources e.world).2 := congrArg (fun a => (a e.world).2) hperform
    have houtcome : e.outcome g h = (e.job.compile g e.task e.sources e.world).1 :=
      congrArg (fun a => (a e.world).1) hperform
    rw [Job.commands_compiles g fxc e.job ht, hafter]
    rcases runs_compile hfxc e.job e.task e.sources e.world with ⟨f, w', hfailed, hruns, hnot⟩ | hruns
    · rw [hfailed] at houtcome ⊢
      refine .inr ⟨next?_of_error houtcome ?_, hruns⟩
      rw [Bool.eq_false_iff, ne_eq, rejected_eq_true, houtcome]
      rintro ⟨-, profile, words, context, ho⟩
      exact hnot profile words context (Except.error.inj ho)
    · exact .inl hruns
  · exact .inl (starts_perform hjob ht e.sources e.world)

theorem Event.runs_of_next (hjob : e.job.Named) (hn : e.next? g h = some s) :
    (e.after g h).runs = e.world.runs ++ e.job.commands g fxc e.task := by
  rcases Event.runs_made hfxc hjob with hruns | ⟨hnone, -⟩
  · exact hruns
  · cases hn.symm.trans hnone

/-- Steps that pass run all that belongs to them. -/
theorem Passes.runs (hp : Passes g h w s events w' s') (hjobs : ∀ e ∈ events, e.job.Named) :
    w'.runs = w.runs ++ events.flatMap fun e => e.job.commands g fxc e.task := by
  induction hp with
  | nil ha => rw [List.flatMap_nil, List.append_nil, ha.2]
  | @cons w w' s s' e events ha hn hrest ih =>
    rw [ih fun e' he' => hjobs e' (List.mem_cons_of_mem e he'), Event.runs_of_next hfxc (hjobs e List.mem_cons_self) hn,
      List.flatMap_cons, List.append_assoc, ha.2]

/-- And where one of them fails, it is the last one that may lack its run. -/
theorem Halts.runs (hh : Halts g h w s events last own) (hjobs : ∀ e ∈ events, e.job.Named) :
    ∃ made, (last.after g h).runs = w.runs ++ made ∧ made <+: events.flatMap fun e => e.job.commands g fxc e.task := by
  obtain ⟨⟨init, w1, rfl, hinit, ha⟩, -, -⟩ := hh
  have hfirst := hinit.runs hfxc fun e he => hjobs e (List.mem_append_left _ he)
  rw [List.flatMap_append, List.flatMap_singleton]
  rcases Event.runs_made hfxc (hjobs last (List.mem_append_right _ List.mem_cons_self)) with hlast | ⟨-, hlast⟩
  · rw [← ha.2, hfirst, List.append_assoc] at hlast
    exact ⟨_, hlast, List.prefix_refl _⟩
  · rw [← ha.2, hfirst] at hlast
    exact ⟨_, hlast, List.prefix_append _ _⟩

end

/-! ## How a step fails -/

theorem reflect_error {document : Bytes} {f : Failure} (hr : reflect document w = (.error f, w')) :
    f.Staged ∨ f = .crashed .tooDeep ∧ Json.overflows document = true := by
  unfold reflect at hr
  by_cases hdeep : Json.overflows document = true
  · rw [if_pos hdeep] at hr
    cases hr
    exact .inr ⟨rfl, hdeep⟩
  · rw [if_neg hdeep] at hr
    cases hread : Reflection.read (.bytes document) with
    | ok r =>
      rw [hread] at hr
      rcases bind_error.mp hr with hlog | ⟨_, w1, -, hr⟩
      · cases hlog
      · cases hr
    | error p =>
      rw [hread] at hr
      cases hr
      exact .inl ⟨_, rfl, nofun⟩

/-- What a step crashes with: what it does not report. -/
inductive Event.Crashes (g : Generator) (h : Host) (fxc : Bytecode.Fxc) (e : Event) : Crash → Prop
  /-- An expression of the shader crashes. -/
  | rendering {c} (ht : e.task = .render)
      (hr : Shader.renderIn e.world.tree h.here (.ofText e.job.path.text) e.job.args = .error (.crashed c)) :
      Crashes g h fxc e c
  /-- The shader is rendered as a text that cannot be written as it is. -/
  | saving {text c} (ht : e.task = .render)
      (hr : Shader.renderIn e.world.tree h.here (.ofText e.job.path.text) e.job.args = .ok text)
      (hs : Unsaved (e.job.file g).text text c) : Crashes g h fxc e c
  /-- The run of the cross compiler crashes. -/
  | translating {target c} (ht : e.task = .translate target)
      (hr : h.RunCrashes e.world.runs.length (g.crossCompiler.command (e.job.file g).text e.job.stage target)
        e.world.tree c) : Crashes g h fxc e c
  /-- The cross compiler's description of the shader is nested too deep to be read. -/
  | describing {text document} (ht : e.task = .translate .gles100)
      (hc : (g.crossCompiler.convert h (e.job.file g).text .gles100 e.world).1 = .ok (text, document))
      (hd : Json.overflows document = true) : Crashes g h fxc e .tooDeep
  /-- The HLSL text cannot be written as it is. -/
  | handing {c} (ht : e.task.Compiles) (hs : Unsaved fxc.sourcePath e.sources.hlslText c) : Crashes g h fxc e c
  /-- The run of the bytecode compiler crashes. -/
  | compiling {t c} (ht : e.task.Compiles)
      (hw : e.world.tree.writeFile h.here fxc.sourcePath (Text.toUtf8 e.sources.hlslText) = .ok t)
      (hr : h.RunCrashes e.world.runs.length (fxc.command Bytecode.defaultEntry (e.job.profile e.task)) t c) :
      Crashes g h fxc e c
  /-- The rendered shader is something that cannot be removed. -/
  | removing {fault} (ht : e.task = .clear) (hs : e.Stuck g h fault) : Crashes g h fxc e (.files fault)

section
variable {f : Failure}

theorem translate_error {target : Target} (hjob : job.Named)
    (ht : g.translate h (job.file g).text s target w = (.error f, w')) :
    f.Staged ∨ ∃ c, f = .crashed c ∧
      (h.RunCrashes w.runs.length (g.crossCompiler.command (job.file g).text job.stage target) w.tree c ∨
        c = .tooDeep ∧ target = .gles100 ∧ ∃ text document,
          (g.crossCompiler.convert h (job.file g).text target w).1 = .ok (text, document) ∧
            Json.overflows document = true) := by
  unfold translate at ht
  rcases bind_error.mp ht with hconvert | ⟨⟨text, document⟩, w1, hconvert, ht⟩
  · exact (CrossCompiler.convert_error (hjob.stage_file g) hconvert).imp_right fun ⟨c, hc, hrun⟩ => ⟨c, hc, .inl hrun⟩
  · dsimp only at ht
    split at ht
    · next htarget =>
      rcases reflect_error (bind_pure_error ht) with hstaged | ⟨rfl, hdeep⟩
      · exact .inl hstaged
      · exact .inr ⟨_, rfl, .inr ⟨rfl, htarget, text, document, by rw [hconvert], hdeep⟩⟩
    · cases ht

theorem compile_error (hfxc : g.bytecodeCompiler = fxc.compile h)
    (hc : job.compile g task s w = (.error f, w')) :
    f.Staged ∨ ∃ c, f = .crashed c ∧ (Unsaved fxc.sourcePath s.hlslText c ∨
      ∃ t, w.tree.writeFile h.here fxc.sourcePath (Text.toUtf8 s.hlslText) = .ok t ∧
        h.RunCrashes w.runs.length (fxc.command Bytecode.defaultEntry (job.profile task)) t c) := by
  unfold Job.compile at hc
  rw [hfxc] at hc
  exact Bytecode.Fxc.compile_error (bind_pure_error hc)

end

/-- A step that fails is reported, or it crashes in one of these ways. -/
theorem Event.own_cases (hfxc : g.bytecodeCompiler = fxc.compile h) (hjob : e.job.Named)
    (ho : e.outcome g h = .error own) : own.Staged ∨ ∃ c, own = .crashed c ∧ e.Crashes g h fxc c := by
  have hrun : e.job.perform g h e.task e.sources e.world = (.error own, e.after g h) := Prod.ext ho rfl
  by_cases ht : e.task.Compiles
  · rw [Job.perform_compiles g h e.job ht] at hrun
    rcases compile_error hfxc hrun with hstaged | ⟨c, hc, hsource | ⟨t, hwritten, hcrash⟩⟩
    · exact .inl hstaged
    · exact .inr ⟨c, hc, .handing ht hsource⟩
    · exact .inr ⟨c, hc, .compiling ht hwritten hcrash⟩
  · cases htask : e.task with
    | compatible => exact absurd (.inl htask) ht
    | fallback => exact absurd (.inr htask) ht
    | translate target =>
      rw [htask] at hrun
      rcases translate_error hjob hrun with hstaged | ⟨c, hc, hcrash | ⟨rfl, rfl, text, document, hconvert, hdeep⟩⟩
      · exact .inl hstaged
      · exact .inr ⟨c, hc, .translating htask hcrash⟩
      · exact .inr ⟨_, hc, .describing htask hconvert hdeep⟩
    | render =>
      rw [htask] at hrun
      unfold Job.perform at hrun
      rcases Shader.prepare_error (bind_pure_error hrun) with hstaged | ⟨c, hc, hcrash | ⟨text, hrendered, hunsaved⟩⟩
      · exact .inl hstaged
      · exact .inr ⟨c, hc, .rendering htask hcrash⟩
      · rw [hjob.join] at hunsaved
        exact .inr ⟨c, hc, .saving htask hrendered hunsaved⟩
    | clear =>
      rw [htask] at hrun
      unfold Job.perform at hrun
      obtain ⟨hafter, fault, hc, hstuck⟩ := clear_error (bind_pure_error hrun)
      refine .inr ⟨_, hc, .removing htask ?_⟩
      unfold Event.Stuck
      rw [hafter]
      exact hstuck

end Generator

end ShaderBundle
