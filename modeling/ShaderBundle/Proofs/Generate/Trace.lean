import Mathlib.Data.List.Sigma
import ShaderBundle.Proofs.Generate.Steps

/-!
# The trace of a run

The steps of a run are those of its jobs, one after the other: the first step that fails is the last one, and what
the run answers then is what has gone wrong in it.

* `Proceeds`: a part of a job, taken step by step, and what is made of a failure (`Ending`).
* `Told`, `Tells`: an action that works on whole jobs.
* `tells_convertVariant`, `tells_convertShader`: the loops.
* `run_traced`: a whole run.
-/

namespace ShaderBundle.Generator

open ShaderBundle.Action

/-! ## Parts of a job -/

/-- What is made of the failure of a step: it is answered in a world. -/
abbrev Ending := Event → Failure → Failure → World → Prop

/-- It is answered at once. -/
def Bare (g : Generator) (h : Host) : Ending := fun last own f w => f = own ∧ w = last.after g h

/-- Before it is answered, the rendered shader is removed. If it cannot be, this is what is answered. -/
def Tidied (g : Generator) (h : Host) : Ending := fun last own f w =>
  w.runs = (last.after g h).runs ∧ (f = own ∨ ∃ fault, f = .crashed (.files fault) ∧ last.Stuck g h fault)

/-- These steps are taken: all of them, or up to one that fails. -/
inductive Proceeds (g : Generator) (h : Host) (ending : Ending) (w : World) (s : VariantSources)
    (steps : List (Job × Task)) : Except Failure VariantSources × World → Prop
  | done {events s' w'} (hp : Passes g h w s events w' s') (hs : events.map Event.step = steps) :
      Proceeds g h ending w s steps (.ok s', w')
  | failed {events last own f w'} (hh : Halts g h w s events last own) (hs : events.map Event.step <+: steps)
      (he : ending last own f w') : Proceeds g h ending w s steps (.error f, w')

variable {g : Generator} {h : Host} {fxc : Bytecode.Fxc} {w w' : World} {s s' : VariantSources}
  {events events' : List Event} {job : Job} {task : Task} {steps steps' : List (Job × Task)} {own : Failure}

namespace Proceeds

variable {ending : Ending} {w0 : World} {s0 : VariantSources} {r : Except Failure VariantSources × World}

/-- What comes after steps that have all passed. -/
theorem of_passes (hp : Passes g h w s events w0 s0) (hs : events.map Event.step = steps)
    (hrest : Proceeds g h ending w0 s0 steps' r) : Proceeds g h ending w s (steps ++ steps') r := by
  cases hrest with
  | done hp' hs' => exact .done (hp.append hp') (by rw [List.map_append, hs, hs'])
  | failed hh hs' he =>
    refine .failed (hp.halts hh) ?_ he
    rw [List.map_append, hs]
    exact (List.prefix_append_right_inj steps).mpr hs'

theorem bind {a : Action VariantSources} {f : VariantSources → Action VariantSources}
    (ha : Proceeds g h ending w s steps (a w)) (hf : ∀ s1 w1, Proceeds g h ending w1 s1 steps' (f s1 w1)) :
    Proceeds g h ending w s (steps ++ steps') ((a >>= f) w) := by
  rw [bind_run]
  rcases hr : a w with ⟨r, w1⟩
  rw [hr] at ha
  cases ha with
  | failed hh hs he => exact .failed hh (hs.trans (List.prefix_append _ _)) he
  | done hp hs => exact of_passes hp hs (hf _ _)

theorem tidied (hr : Proceeds g h (Bare g h) w s steps r) : Proceeds g h (Tidied g h) w s steps r := by
  cases hr with
  | done hp hs => exact .done hp hs
  | failed hh hs he => exact .failed hh hs ⟨by rw [he.2], .inl he.1⟩

/-- One step, unless its failure can be a rejection. -/
theorem perform (job : Job) (task : Task) (ht : task ≠ .compatible) (w : World) (s : VariantSources) :
    Proceeds g h (Bare g h) w s [(job, task)] (job.perform g h task s w) := by
  rcases hr : job.perform g h task s w with ⟨r, w1⟩
  have hafter : (Event.mk job task s w).after g h = w1 := congrArg Prod.snd hr
  have houtcome : (Event.mk job task s w).outcome g h = r := congrArg Prod.fst hr
  cases r with
  | ok s1 =>
    have hpass := Passes.single (Event.next?_of_ok houtcome)
    rw [hafter] at hpass
    exact .done hpass rfl
  | error own =>
    have hnext := Event.next?_of_error houtcome (Event.rejected_of_task ht)
    exact .failed (.single hnext houtcome) (List.prefix_refl _) ⟨rfl, hafter.symm⟩

theorem translate (job : Job) : ∀ (targets : List Target) (w : World) (s : VariantSources),
    Proceeds g h (Bare g h) w s (targets.map fun target => (job, .translate target))
      (targets.foldlM (g.translate h (job.file g).text) s w)
  | [], w, s => by
    rw [List.foldlM_nil]
    exact .done (.nil (.refl w)) rfl
  | target :: targets, w, s => by
    rw [List.foldlM_cons]
    have hstep : Proceeds g h (Bare g h) w s [(job, .translate target)]
        (g.translate h (job.file g).text s target w) := perform job (.translate target) nofun w s
    exact hstep.bind fun s1 w1 => translate job targets w1 s1

/-- The rendered shader is removed at the end. After a failure this is no step any more. -/
theorem ensure_clear {body : Action VariantSources} (hb : Proceeds g h (Bare g h) w s steps (body w))
    (hj : ∀ step ∈ steps, step.1 = job) :
    Proceeds g h (Tidied g h) w s (steps ++ [(job, .clear)])
      (ensure body (Shader.removeScratch h (job.file g).text) w) := by
  rcases hr : body w with ⟨r, w1⟩
  rw [hr] at hb
  rcases hclear : Shader.removeScratch h (job.file g).text w1 with ⟨r', w2⟩
  have hruns : w2.runs = w1.runs := by
    have hstarts := Starts.clear (·.removeFile h.here (job.file g).text) w1
    rw [Shader.removeScratch] at hclear
    rwa [hclear, Ran.none_iff] at hstarts
  cases hb with
  | @failed events last own _ _ hh hs he =>
    obtain ⟨rfl, rfl⟩ := he
    cases r' with
    | ok u =>
      rw [ensure_run hr hclear]
      exact .failed hh (hs.trans (List.prefix_append _ _)) ⟨hruns, .inl rfl⟩
    | error f =>
      rw [ensure_run_error hr hclear]
      obtain ⟨rfl, fault, rfl, hstuck⟩ := clear_error hclear
      -- the step that failed is one of this job, so the file that is stuck is the job's
      have hjob : last.job = job := hj _ (hs.subset (List.mem_map_of_mem hh.mem))
      refine .failed hh (hs.trans (List.prefix_append _ _)) ⟨hruns, .inr ⟨fault, rfl, ?_⟩⟩
      rwa [← hjob] at hstuck
  | @done events s1 _ hp hs =>
    have hstep : Proceeds g h (Bare g h) w1 s1 [(job, .clear)] (job.perform g h .clear s1 w1) :=
      perform job .clear nofun w1 s1
    rw [Job.perform_clear, bind_run, hclear] at hstep
    refine of_passes hp hs ?_
    cases r' with
    | ok u =>
      rw [ensure_run hr hclear]
      exact hstep.tidied
    | error f =>
      rw [ensure_run_error hr hclear]
      exact hstep.tidied

/-- The rendered shader is there while it is translated. -/
theorem withRendered (hjob : job.Named) (w : World) (s : VariantSources) :
    Proceeds g h (Tidied g h) w s
      ([(job, .render)] ++ (Target.all.map (fun target => (job, .translate target)) ++ [(job, .clear)]))
      (Shader.withRendered h job.path.text job.args g.crossCompiler.scratch
        (fun file => Target.all.foldlM (g.translate h file.text) {}) w) := by
  have hrender : Proceeds g h (Bare g h) w s [(job, .render)] (job.perform g h .render s w) :=
    perform job .render nofun w s
  rw [Job.perform_render, bind_run] at hrender
  rw [Shader.withRendered_eq, bind_run]
  rcases hp : Shader.prepare h job.path.text job.args g.crossCompiler.scratch w with ⟨r, w1⟩
  rw [hp] at hrender
  cases r with
  | error f =>
    cases hrender.tidied with
    | failed hh hs he => exact .failed hh (hs.trans (List.prefix_append _ _)) he
  | ok file =>
    obtain rfl : file = job.file g := (Shader.prepare_ok hp).trans (hjob.join _)
    cases hrender with
    | done hpass hs =>
      refine of_passes hpass hs (ensure_clear (translate job Target.all w1 {}) fun step hstep => ?_)
      obtain ⟨target, -, rfl⟩ := List.mem_map.mp hstep
      rfl

end Proceeds

/-! ## Rejected jobs -/

theorem rejectedIn_append (g : Generator) (h : Host) (events events' : List Event) (job : Job) :
    rejectedIn g h (events ++ events') job = (rejectedIn g h events job || rejectedIn g h events' job) :=
  List.any_append

theorem rejectedIn_of_forall (hr : ∀ e ∈ events, e.rejected g h = false) (job : Job) :
    rejectedIn g h events job = false := by
  rw [rejectedIn, List.any_eq_false]
  intro e he
  simp [hr e he]

theorem rejectedIn_of_job_ne (hj : ∀ e ∈ events, e.job ≠ job) : rejectedIn g h events job = false := by
  rw [rejectedIn, List.any_eq_false]
  intro e he
  simp [hj e he]

theorem rejectedIn_of_mem {e : Event} (he : e ∈ events) (hr : e.rejected g h = true) :
    rejectedIn g h events e.job = true := by
  rw [rejectedIn, List.any_eq_true]
  exact ⟨e, he, by simp [hr]⟩

/-! ## Plans -/

variable {jobs jobs' : List Job} {rejected rejected' : Job → Bool}

theorem plan_append (jobs jobs' : List Job) (rejected : Job → Bool) :
    plan (jobs ++ jobs') rejected = plan jobs rejected ++ plan jobs' rejected := List.flatMap_append

theorem plan_congr (hr : ∀ job ∈ jobs, rejected job = rejected' job) : plan jobs rejected = plan jobs rejected' := by
  unfold plan
  exact List.flatMap_congr fun job hjob => by rw [hr job hjob]

theorem job_mem_of_step_mem {step : Job × Task} (hs : step ∈ plan jobs rejected) : step.1 ∈ jobs := by
  obtain ⟨job, hjob, hstep⟩ := List.mem_flatMap.mp hs
  obtain ⟨task, -, rfl⟩ := List.mem_map.mp hstep
  exact hjob

theorem job_mem_of_taken (hs : events.map Event.step <+: plan jobs rejected) {e : Event} (he : e ∈ events) :
    e.job ∈ jobs :=
  job_mem_of_step_mem (hs.subset (List.mem_map_of_mem he))

theorem job_mem_of_eq (hs : events.map Event.step = plan jobs rejected) {e : Event} (he : e ∈ events) :
    e.job ∈ jobs :=
  job_mem_of_step_mem (hs ▸ List.mem_map_of_mem he)

/-- The plan of two groups of jobs, as far as each of them is concerned. -/
theorem plan_rejectedIn_append (hd : jobs.Disjoint jobs') (hs : ∀ e ∈ events, e.job ∈ jobs)
    (hs' : ∀ e ∈ events', e.job ∈ jobs') :
    plan (jobs ++ jobs') (rejectedIn g h (events ++ events')) =
      plan jobs (rejectedIn g h events) ++ plan jobs' (rejectedIn g h events') := by
  rw [plan_append]
  congr 1
  · refine plan_congr fun job hjob => ?_
    have hother : rejectedIn g h events' job = false :=
      rejectedIn_of_job_ne fun e he heq => hd hjob (heq ▸ hs' e he)
    rw [rejectedIn_append, hother, Bool.or_false]
  · refine plan_congr fun job hjob => ?_
    have hother : rejectedIn g h events job = false :=
      rejectedIn_of_job_ne fun e he heq => hd (hs e he) (heq ▸ hjob)
    rw [rejectedIn_append, hother, Bool.false_or]

/-! ## Whole jobs -/

/-- The jobs are done, step by step, or up to a step that fails. What is answered then is what has gone wrong in the
step, as it is seen outside of its job. -/
inductive Told {α : Type} (g : Generator) (h : Host) (seen : Job → Failure → Failure) (w : World) (s : VariantSources)
    (jobs : List Job) : Except Failure α × World → Prop
  | done {x w0 done s0} (hp : Passes g h w s done w0 s0)
      (hs : done.map Event.step = plan jobs (rejectedIn g h done)) : Told g h seen w s jobs (.ok x, w0)
  | failed {f w0 taken last own} (hh : Halts g h w s taken last own)
      (hs : taken.map Event.step <+: plan jobs (rejectedIn g h taken)) (hw : w0.runs = (last.after g h).runs)
      (hf : f = seen last.job own ∨ ∃ fault, f = .crashed (.files fault) ∧ last.Stuck g h fault) :
      Told g h seen w s jobs (.error f, w0)

/-- Wherever it begins, the action does these jobs. -/
def Tells {α : Type} (g : Generator) (h : Host) (seen : Job → Failure → Failure) (a : Action α) (jobs : List Job) :
    Prop :=
  ∀ w s, Told g h seen w s jobs (a w)

namespace Tells

variable {α β : Type} {seen : Job → Failure → Failure} {a : Action α} {f : α → Action β}

theorem pure (x : α) : Tells g h seen (Pure.pure x : Action α) [] := fun w _ => .done (.nil (.refl w)) rfl

theorem log (level : Level) (text : String) : Tells g h seen (Action.log level text) [] :=
  fun w _ => .done (.nil (alike_logged w _)) rfl

theorem bind (ha : Tells g h seen a jobs) (hf : ∀ x, Tells g h seen (f x) jobs') (hd : jobs.Disjoint jobs') :
    Tells g h seen (a >>= f) (jobs ++ jobs') := by
  intro w s
  have hfirst := ha w s
  rw [bind_run]
  rcases hr : a w with ⟨r, w1⟩
  rw [hr] at hfirst
  cases hfirst with
  | failed hh hs hw hf' =>
    -- jobs that are not reached yet have no rejections, so the plan begins with that of the first jobs
    have hplan := plan_rejectedIn_append (g := g) (h := h) hd (fun e => job_mem_of_taken hs)
      (fun e he => absurd he List.not_mem_nil)
    rw [List.append_nil] at hplan
    refine .failed hh ?_ hw hf'
    rw [hplan]
    exact hs.trans (List.prefix_append _ _)
  | @done x _ events s1 hp hs =>
    have hmem : ∀ e ∈ events, e.job ∈ jobs := fun e => job_mem_of_eq hs
    have hsecond := hf x w1 s1
    dsimp only
    rcases hr' : f x w1 with ⟨r', w2⟩
    rw [hr'] at hsecond
    cases hsecond with
    | done hp' hs' =>
      refine .done (hp.append hp') ?_
      rw [plan_rejectedIn_append hd hmem fun e => job_mem_of_eq hs', List.map_append, hs, hs']
    | failed hh hs' hw hf' =>
      refine .failed (hp.halts hh) ?_ hw hf'
      rw [plan_rejectedIn_append hd hmem fun e => job_mem_of_taken hs', List.map_append, hs]
      exact (List.prefix_append_right_inj _).mpr hs'

/-- What comes after the jobs is no step. -/
theorem bind_silent (ha : Tells g h seen a jobs) (hf : ∀ x, Tells g h seen (f x) []) :
    Tells g h seen (a >>= f) jobs := by
  rw [← List.append_nil jobs]
  exact bind ha hf (List.disjoint_nil_right _)

/-- A loop does the jobs of each of its turns. -/
theorem mapM {turn : β → Action α} {js : β → List Job} : ∀ {xs : List β},
    (∀ x ∈ xs, Tells g h seen (turn x) (js x)) → (xs.flatMap js).Nodup → Tells g h seen (xs.mapM turn) (xs.flatMap js)
  | [], _, _ => by
    rw [List.mapM_nil]
    exact pure []
  | x :: xs, ht, hn => by
    rw [List.flatMap_cons] at hn ⊢
    rw [List.mapM_cons]
    obtain ⟨-, hrest, hdisjoint⟩ := List.nodup_append'.mp hn
    refine bind (ht x List.mem_cons_self) (fun y => ?_) hdisjoint
    exact bind_silent (mapM (fun x' hx' => ht x' (List.mem_cons_of_mem x hx')) hrest) fun ys => pure (y :: ys)

/-- A failure of a job is seen with what it is about. -/
theorem inContext (job : Job) (ha : Tells g h (fun _ f => f) a [job]) :
    Tells g h (fun job => within job.context) (Action.inContext job.context a) [job] := by
  intro w s
  have hfirst := ha w s
  rw [inContext_run]
  rcases hr : a w with ⟨r, w1⟩
  rw [hr] at hfirst
  cases hfirst with
  | done hp hs => exact .done hp hs
  | failed hh hs hw hf =>
    have hjob := job_mem_of_taken hs hh.mem
    rw [List.mem_singleton] at hjob
    refine .failed hh hs hw ?_
    rcases hf with rfl | ⟨fault, rfl, hstuck⟩
    · exact .inl (by rw [hjob])
    · exact .inr ⟨fault, rfl, hstuck⟩

end Tells

/-! ## The jobs of a run -/

/-- The sources with what is made of them in the end. -/
def withBytecode (s : VariantSources) (hlsl : Bytes) : VariantSources :=
  { s with hlsl, glsl150 := Glsl.to150 s.glsl130 }

/-- The events of compiling tell what the compiler answers. -/
theorem compile_event {result : Except Failure Bytes} (ht : task.Compiles) (job : Job) (s : VariantSources)
    (hc : g.bytecodeCompiler s.hlslText Bytecode.defaultEntry (job.profile task) w = (result, w')) :
    (Event.mk job task s w).outcome g h = result.map (withBytecode s) ∧ (Event.mk job task s w).after g h = w' := by
  have hperform : job.perform g h task s w = (result.map (withBytecode s), w') := by
    rw [Job.perform_compiles g h job ht, Job.compile]
    exact (bind_pure_run _ _ _).trans (by rw [hc]; rfl)
  exact ⟨congrArg Prod.fst hperform, congrArg Prod.snd hperform⟩

theorem plan_singleton (job : Job) (rejected : Job → Bool) :
    plan [job] rejected = [(job, .render)] ++
        (Target.all.map (fun target => (job, .translate target)) ++ [(job, .clear)]) ++
      ((job, .compatible) :: if rejected job then [(job, .fallback)] else []) := by
  rw [plan, List.flatMap_singleton, Job.tasks]
  cases rejected job <;> rfl

theorem rejected_of_first (hs : events.map Event.step = [(job, .render)] ++
    (Target.all.map (fun target => (job, .translate target)) ++ [(job, .clear)])) :
    ∀ e ∈ events, e.rejected g h = false := by
  intro e he
  have hmem : e.step ∈ events.map Event.step := List.mem_map_of_mem he
  refine Event.rejected_of_task fun ht => ?_
  rw [hs] at hmem
  simp [Event.step, ht] at hmem

theorem plan_of_first (hs : events.map Event.step = [(job, .render)] ++
      (Target.all.map (fun target => (job, .translate target)) ++ [(job, .clear)]))
    (hs' : events'.map Event.step =
      (job, .compatible) :: if rejectedIn g h events' job then [(job, .fallback)] else []) :
    (events ++ events').map Event.step = plan [job] (rejectedIn g h (events ++ events')) := by
  rw [plan_singleton, rejectedIn_append, rejectedIn_of_forall (rejected_of_first hs), Bool.false_or,
    List.map_append, hs, hs']

/-- Compiling takes one step, or two if the first one is a rejection. -/
theorem compile_taken (job : Job) {answer : Except Failure Bytes}
    (hb : Bytecode.compile g.bytecodeCompiler s.hlslText job.stage Bytecode.defaultEntry w = (answer, w')) :
    ∃ events, events.map Event.step =
        ((job, .compatible) :: if rejectedIn g h events job then [(job, .fallback)] else []) ∧
      (∀ hlsl, answer = .ok hlsl → Passes g h w s events w' (withBytecode s hlsl)) ∧
      ∀ f, answer = .error f → ∃ last, Halts g h w s events last f ∧ w'.runs = (last.after g h).runs := by
  have hattempts := Bytecode.attempts_compile g.bytecodeCompiler s.hlslText job.stage Bytecode.defaultEntry w
  rw [hb] at hattempts
  clear hb
  cases hattempts with
  | first hc hnot =>
    obtain ⟨houtcome, hafter⟩ := compile_event (h := h) (.inl rfl) job s hc
    have hrejected : (Event.mk job .compatible s w).rejected g h = false := by
      rw [Bool.eq_false_iff, ne_eq, Event.rejected_eq_true, houtcome]
      rintro ⟨-, profile, words, context, heq⟩
      cases answer with
      | ok bytes => cases heq
      | error f =>
        cases heq
        exact hnot _ _ _ rfl
    refine ⟨[⟨job, .compatible, s, w⟩], ?_, ?_, ?_⟩
    · rw [rejectedIn_of_forall fun e he => by rw [List.mem_singleton.mp he, hrejected]]
      rfl
    · rintro hlsl rfl
      exact hafter ▸ Passes.single (Event.next?_of_ok houtcome)
    · rintro f rfl
      exact ⟨_, .single (Event.next?_of_error houtcome hrejected) houtcome, by rw [hafter]⟩
  | @second profile words context w1 entries _ w2 entries' hc hc' =>
    obtain ⟨houtcome, hafter⟩ := compile_event (h := h) (.inl rfl) job s hc
    obtain ⟨houtcome', hafter'⟩ := compile_event (h := h) (.inr rfl) job s hc'
    have hrejected : (Event.mk job .compatible s w).rejected g h = true :=
      Event.rejected_eq_true.mpr ⟨rfl, profile, words, context, houtcome⟩
    have hfirst : Passes g h w s [⟨job, .compatible, s, w⟩] w1 s :=
      hafter ▸ Passes.single (Event.next?_of_rejected hrejected)
    -- words are logged between the two runs, which no step depends on
    have hbetween := hfirst.alike (alike_logged w1 (w1.log ++ entries))
    refine ⟨[⟨job, .compatible, s, w⟩, ⟨job, .fallback, s, { w1 with log := w1.log ++ entries }⟩], ?_, ?_, ?_⟩
    · rw [show rejectedIn g h _ job = true from rejectedIn_of_mem List.mem_cons_self hrejected]
      rfl
    · rintro hlsl rfl
      have hsecond := Passes.single (Event.next?_of_ok houtcome')
      rw [hafter'] at hsecond
      exact (hbetween.append hsecond).alike (alike_logged w2 _)
    · rintro f rfl
      have hnext := Event.next?_of_error houtcome' (Event.rejected_of_task nofun)
      exact ⟨_, hbetween.halts (.single hnext houtcome'), by rw [hafter']⟩

/-- One job. -/
theorem tells_convertVariant (hjob : job.Named) :
    Tells g h (fun _ f => f) (g.convertVariant h job.path job.args) [job] := by
  intro w s
  unfold convertVariant
  rw [bind_run_ok (CrossCompiler.stageOf_run hjob.stage w), bind_run]
  have hfirst := Proceeds.withRendered (g := g) (h := h) hjob w s
  rcases hr : Shader.withRendered h job.path.text job.args g.crossCompiler.scratch
    (fun file => Target.all.foldlM (g.translate h file.text) {}) w with ⟨r, w1⟩
  rw [hr] at hfirst
  cases hfirst with
  | failed hh hs he =>
    refine .failed hh ?_ he.1 he.2
    rw [plan_singleton]
    exact hs.trans (List.prefix_append _ _)
  | @done events v _ hp hs =>
    change Told g h _ w s [job] ((Bytecode.compile g.bytecodeCompiler v.hlslText job.stage Bytecode.defaultEntry >>=
      fun hlsl => pure (withBytecode v hlsl)) w1)
    rw [bind_pure_run]
    rcases hb : Bytecode.compile g.bytecodeCompiler v.hlslText job.stage Bytecode.defaultEntry w1 with ⟨answer, w2⟩
    obtain ⟨events', hs', hpass, hfail⟩ := compile_taken (h := h) job hb
    cases answer with
    | ok hlsl => exact .done (hp.append (hpass hlsl rfl)) (plan_of_first hs hs')
    | error f =>
      obtain ⟨last, hh, hw⟩ := hfail f rfl
      exact .failed (hp.halts hh) (plan_of_first hs hs' ▸ List.prefix_refl _) hw (.inl rfl)

/-! ## All jobs -/

variable {variants : List VariantArgs} {shaders : List Path} {shader : Nat} {path : Path} {stage : Stage}

theorem shader_of_mem_ofShader (hj : job ∈ Job.ofShader variants shader path) : job.shader = shader := by
  unfold Job.ofShader at hj
  split at hj
  · obtain ⟨x, -, rfl⟩ := List.mem_map.mp hj
    rfl
  · cases hj

theorem nodup_ofShader (variants : List VariantArgs) (shader : Nat) (path : Path) :
    (Job.ofShader variants shader path).Nodup := by
  unfold Job.ofShader
  split
  · -- the places of the variants tell the jobs apart
    refine List.Nodup.of_map Job.variant ?_
    rw [List.map_map]
    exact variants.nodup_zipIdx_map_snd
  · exact List.nodup_nil

theorem nodup_all (shaders : List Path) (variants : List VariantArgs) : (Job.all shaders variants).Nodup := by
  refine List.nodup_flatMap.mpr ⟨fun x _ => nodup_ofShader variants x.2 x.1, ?_⟩
  refine (List.pairwise_map.mp shaders.nodup_zipIdx_map_snd).imp fun hne job hj hj' => hne ?_
  exact (shader_of_mem_ofShader hj).symm.trans (shader_of_mem_ofShader hj')

theorem named_of_isName {d : Path} {n : String} (hn : IsName n) (hpath : path = d.child n)
    (hstage : Stage.ofPath? path = some stage) (shader variant : Nat) (args : VariantArgs) :
    (Job.mk shader path stage variant args).Named := by
  refine ⟨d, n, hn, hpath, ?_⟩
  rwa [hpath, Stage.ofPath?, Path.suffix, Path.name_child] at hstage

/-- One shader. -/
theorem tells_convertShader {d : Path} {n : String} (hn : IsName n) (hpath : path = d.child n)
    (hstage : Stage.ofPath? path = some stage) (shader : Nat) :
    Tells g h (fun job => within job.context) (g.convertShader h path) (Job.ofShader g.config.variants shader path) := by
  have hjobs : Job.ofShader g.config.variants shader path =
      g.config.variants.zipIdx.flatMap fun x => [⟨shader, path, stage, x.2, x.1⟩] := by
    rw [Job.ofShader, hstage, ← List.map_eq_flatMap]
  have hnodup := nodup_ofShader g.config.variants shader path
  have hvariants : Tells g h (fun job => within job.context)
      (g.config.variants.zipIdx.mapM fun x => inContext (variantContext path x.2) (g.convertVariant h path x.1))
      (Job.ofShader g.config.variants shader path) := by
    rw [hjobs] at hnodup ⊢
    refine Tells.mapM (fun x _ => ?_) hnodup
    have hvariant := tells_convertVariant (g := g) (h := h) (named_of_isName hn hpath hstage shader x.2 x.1)
    have hcontext := Tells.inContext _ hvariant
    exact hcontext
  exact hvariants.bind_silent fun records => (Tells.log _ _).bind_silent fun _ => .pure _

/-- All shaders that have been discovered. -/
theorem tells_convertShaders (hn : ∀ path ∈ shaders, ∃ n, IsName n ∧ path = g.config.shaderDir.child n)
    (hstage : ∀ path ∈ shaders, ∃ stage, Stage.ofPath? path = some stage) :
    Tells g h (fun job => within job.context) (shaders.mapM (g.convertShader h)) (Job.all shaders g.config.variants) := by
  have hmap : shaders.mapM (g.convertShader h) = shaders.zipIdx.mapM fun x => g.convertShader h x.1 := by
    conv_lhs => rw [← List.zipIdx_map_fst 0 shaders]
    exact List.mapM_map
  rw [hmap]
  refine Tells.mapM (fun x hx => ?_) (nodup_all shaders g.config.variants)
  have hmem : x.1 ∈ shaders := List.zipIdx_map_fst 0 shaders ▸ List.mem_map_of_mem hx
  obtain ⟨n, hname, hpath⟩ := hn x.1 hmem
  obtain ⟨stage, hs⟩ := hstage x.1 hmem
  exact tells_convertShader hname hpath hs x.2

theorem stage_of_discover_ok (hd : g.discover h w = (.ok shaders, w')) :
    ∀ path ∈ shaders, ∃ stage, Stage.ofPath? path = some stage := by
  obtain ⟨-, names, -, rfl⟩ := discover_ok hd
  intro path hpath
  obtain ⟨-, hshader⟩ := mem_shadersAmong.mp hpath
  exact Option.isSome_iff_exists.mp (isShader_eq_true.mp hshader).1

theorem named_of_mem_all (hn : ∀ path ∈ shaders, ∃ n, IsName n ∧ path = g.config.shaderDir.child n)
    (hj : job ∈ Job.all shaders variants) : job.Named := by
  obtain ⟨x, hx, hj⟩ := List.mem_flatMap.mp hj
  obtain ⟨n, hname, hpath⟩ := hn x.1 (List.zipIdx_map_fst 0 shaders ▸ List.mem_map_of_mem hx)
  change job ∈ Job.ofShader variants x.2 x.1 at hj
  cases hstage : Stage.ofPath? x.1 with
  | none =>
    rw [Job.ofShader, hstage] at hj
    cases hj
  | some stage =>
    rw [Job.ofShader, hstage] at hj
    obtain ⟨y, -, rfl⟩ := List.mem_map.mp hj
    exact named_of_isName hname hpath hstage x.2 y.2 y.1

/-- A run, once its shaders are discovered. -/
theorem run_told (ht : w.tree.WellFormed) (hd : g.discover h w = (.ok shaders, w)) (s : VariantSources) :
    Told g h (fun job => within job.context) w s (Job.all shaders g.config.variants) (g.run h w) := by
  have htells := tells_convertShaders (h := h) (isName_of_discover_ok ht.names hd) (stage_of_discover_ok hd)
  unfold run
  rw [bind_run_ok hd]
  have hlogged : Tells g h (fun job => within job.context) (do
      log .info s!"Found {shaders.length} shaders in {g.config.shaderDir.text}"
      shaders.mapM (g.convertShader h)) (Job.all shaders g.config.variants) :=
    Tells.bind (.log _ _) (fun _ => htells) (List.disjoint_nil_left _)
  exact hlogged w s

theorem commands_of_steps (g : Generator) (fxc : Bytecode.Fxc) (events : List Event) :
    (events.flatMap fun e => e.job.commands g fxc e.task) =
      (events.map Event.step).flatMap fun step => step.1.commands g fxc step.2 := by
  rw [List.flatMap_map]
  rfl

theorem variantContext_ne_empty (path : Path) (i : Nat) : variantContext path i ≠ "" := by
  intro hempty
  have hlength := congrArg String.length hempty
  simp [variantContext] at hlength
  exact absurd hlength.2 (by decide)

/-- The text of an error with a context. -/
theorem message_within (cause : Cause) {context : String} (hc : context ≠ "") :
    ConvertError.message ⟨cause, some context⟩ = s!"{context}: {cause.message}" := by
  unfold ConvertError.message
  split
  · contradiction
  · next heq =>
    cases heq
    contradiction
  · next context' heq =>
    cases heq
    rfl

/-- What is said outside of a job about what has gone wrong in it. -/
theorem reported_within {e : ConvertError} (hplain : own.Plain ∨ ∃ c, own = .crashed c)
    (hf : Failure.reported e = within job.context own) : ∃ cause, own = .reported { cause } ∧
      e = ⟨cause, some job.context⟩ ∧
      e.message = s!"{job.path.name} ({VariantArgs.label job.variant} variant): {own.message}" := by
  rcases hplain with ⟨cause, rfl⟩ | ⟨c, rfl⟩
  · cases hf
    refine ⟨cause, rfl, rfl, ?_⟩
    have hsplit : " variant): " = " variant)" ++ ": " := by decide
    calc ConvertError.message ⟨cause, some (variantContext job.path job.variant)⟩
      _ = variantContext job.path job.variant ++ ": " ++ cause.message :=
        message_within cause (variantContext_ne_empty job.path job.variant)
      _ = job.path.name ++ " (" ++ VariantArgs.label job.variant ++ " variant): " ++ cause.message := by
        rw [hsplit, ← String.append_assoc]
        rfl
  · cases hf

theorem crashed_within {context : String} {c : Crash} (hf : Failure.crashed c = within context own) :
    own = .crashed c := by
  cases own with
  | reported e => cases hf
  | crashed c' =>
    cases hf
    rfl

/-- What is answered for a step that fails: its error, with what it is about, or a crash. -/
theorem Event.answered {last : Event} {f : Failure} (hfxc : g.bytecodeCompiler = fxc.compile h)
    (hjob : last.job.Named) (ho : last.outcome g h = .error own)
    (hf : f = within last.job.context own ∨ ∃ fault, f = .crashed (.files fault) ∧ last.Stuck g h fault) :
    (∀ e, f = .reported e → ∃ cause, own = .reported { cause } ∧ e = ⟨cause, some last.job.context⟩ ∧
      e.message = s!"{last.job.path.name} ({VariantArgs.label last.job.variant} variant): {own.message}") ∧
    ∀ c, f = .crashed c → own = .crashed c ∨ ∃ fault, c = .files fault := by
  constructor
  · rintro e rfl
    have hplain : own.Plain ∨ ∃ c, own = .crashed c :=
      (Event.own_cases hfxc hjob ho).imp Failure.Staged.plain fun ⟨c, hc, _⟩ => ⟨c, hc⟩
    rcases hf with hf | ⟨fault, hf, -⟩
    · exact reported_within hplain hf
    · cases hf
  · rintro c rfl
    rcases hf with hf | ⟨fault, hf, -⟩
    · exact .inl (crashed_within hf)
    · cases hf
      exact .inr ⟨fault, rfl⟩

/-- A run that can list its shaders takes the steps of its jobs in their order. The runs of tools are those of the
steps, each of them once. The run succeeds if and only if all steps have been taken and have passed; else the
last step is the first that fails, nothing is run after it, and an error that is reported is its error with the name
of the shader and of the variant in front. -/
theorem run_traced (ht : w.tree.WellFormed) (hfxc : g.bytecodeCompiler = fxc.compile h)
    {result : Except Failure (List ShaderRecord)} (hr : g.run h w = (result, w')) :
    (∃ f, g.discover h w = (.error f, w) ∧ result = .error f ∧ w' = w) ∨
    ∃ shaders events, g.discover h w = (.ok shaders, w) ∧ shaders.Pairwise (fun p q => p.name ≤ q.name) ∧
      (∀ path ∈ shaders, ∃ stage, Stage.ofPath? path = some stage) ∧
      let steps := plan (Job.all shaders g.config.variants) (rejectedIn g h events)
      let commands := steps.flatMap fun step => step.1.commands g fxc step.2
      events.map Event.step <+: steps ∧
      (∃ made, w'.runs = w.runs ++ made ∧ made <+: commands) ∧
      ((∃ records, result = .ok records) ↔ events.map Event.step = steps ∧ ∀ e ∈ events, (e.next? g h).isSome) ∧
      (∀ records, result = .ok records → w'.runs = w.runs ++ commands ∧ ∃ s, Passes g h w {} events w' s) ∧
      ∀ f, result = .error f → ∃ last own, Halts g h w {} events last own ∧ w'.runs = (last.after g h).runs ∧
        (∀ e, f = .reported e → ∃ cause, own = .reported { cause } ∧ e = ⟨cause, some last.job.context⟩ ∧
          e.message = s!"{last.job.path.name} ({VariantArgs.label last.job.variant} variant): {own.message}") ∧
        ∀ c, f = .crashed c → own = .crashed c ∨ ∃ fault, c = .files fault := by
  rcases hd : g.discover h w with ⟨f | shaders, w1⟩
  · left
    have hsame : w1 = w := by
      rw [discover_run] at hd
      exact (congrArg Prod.snd hd).symm
    rw [run, bind_run_error hd, hsame] at hr
    cases hr
    exact ⟨f, by rw [hsame], rfl, rfl⟩
  · right
    obtain ⟨rfl, names, -, hsorted⟩ := discover_ok hd
    have hnames := isName_of_discover_ok ht.names hd
    have htold := run_told ht hd {}
    rw [hr] at htold
    cases htold with
    | @done records _ events s hp hs =>
      have hjobs : ∀ e ∈ events, e.job.Named := fun e he => named_of_mem_all hnames (job_mem_of_eq hs he)
      have hruns := hp.runs hfxc hjobs
      rw [commands_of_steps, hs] at hruns
      refine ⟨shaders, events, rfl, ?_, stage_of_discover_ok hd, hs ▸ List.prefix_refl _,
        ⟨_, hruns, List.prefix_refl _⟩, ?_, fun _ _ => ⟨hruns, s, hp⟩, fun f hf => by cases hf⟩
      · rw [hsorted]
        exact sorted_shadersAmong _ _ _ _
      · exact ⟨fun _ => ⟨hs, hp.isSome_next?⟩, fun _ => ⟨records, rfl⟩⟩
    | @failed f _ events last own hh hs hw hf =>
      have hjobs : ∀ e ∈ events, e.job.Named := fun e he => named_of_mem_all hnames (job_mem_of_taken hs he)
      obtain ⟨made, hruns, hmade⟩ := hh.runs hfxc hjobs
      rw [commands_of_steps] at hmade
      refine ⟨shaders, events, rfl, ?_, stage_of_discover_ok hd, hs, ⟨made, hw.trans hruns, ?_⟩, ?_,
        fun _ h => by (cases h), fun f' hf' => ?_⟩
      · rw [hsorted]
        exact sorted_shadersAmong _ _ _ _
      · obtain ⟨rest, hrest⟩ := hs
        rw [← hrest, List.flatMap_append]
        exact hmade.trans (List.prefix_append _ _)
      · constructor
        · rintro ⟨records, h⟩
          cases h
        · rintro ⟨-, hall⟩
          have hlast := hall last hh.mem
          rw [hh.failed] at hlast
          cases hlast
      · cases hf'
        exact ⟨last, own, hh, hw, Event.answered hfxc (hjobs last hh.mem) hh.outcome hf⟩

/-! A run whose bytecode compiler rejects every source, for both profiles. -/

def refusedCross : CrossCompiler := ⟨"glslcc", .ofText "/w/shaders", .ofText "/w/tmp", false⟩

def refusedBytecode : Bytecode.Fxc := ⟨"fxc", .ofText "/w/tmp"⟩

def refusedHost : Host where
  here := ["w"]
  toolPath := []
  scratchRoot := "/w"
  scratchName := "tmp"
  tools := fun n argv t =>
    if n < Target.all.length then
      refusedCross.tools ["w"] (fun _ _ _ => .ok ({}, some [], some (Text.toUtf8 "\x7b\x7d"))) n argv t
    else .ok ({ status := 1 }, t)

def refusedGenerator : Generator := ⟨{ package := "gpu" }, refusedCross, refusedBytecode.compile refusedHost⟩

def refusedTree : Tree :=
  ⟨[(["w"], .directory), (["w", "tmp"], .directory), (["w", "shaders"], .directory),
    (["w", "shaders", "a.vert"], .file (Text.toUtf8 "x") false)]⟩

theorem run_refused : ∃ e w' events last own, refusedGenerator.run refusedHost { tree := refusedTree } =
      (.error (.reported e), w') ∧ w'.runs.length = 6 ∧
    Halts refusedGenerator refusedHost { tree := refusedTree } {} events last own ∧
    e.message = s!"{last.job.path.name} ({VariantArgs.label last.job.variant} variant): {own.message}" := by
  have hevaluated : (match refusedGenerator.run refusedHost { tree := refusedTree } with
      | (.error (.reported _), w') => w'.runs.length == 6
      | (.error (.crashed _), _) => false
      | (.ok _, _) => false) = true := by
    decide +kernel
  have hdiscovers : (refusedGenerator.discover refusedHost { tree := refusedTree }).1.toBool = true := by
    decide +kernel
  rcases hr : refusedGenerator.run refusedHost { tree := refusedTree } with ⟨f | records, w'⟩
  · rcases run_traced (by decide +kernel) rfl hr with ⟨f', hf', -⟩ | ⟨shaders, events, -, -, -, -, -, -, -, hfails⟩
    · rw [hf'] at hdiscovers
      cases hdiscovers
    · obtain ⟨last, own, hh, -, hreported, -⟩ := hfails f rfl
      rw [hr] at hevaluated
      cases f with
      | reported e =>
        obtain ⟨cause, -, -, hmessage⟩ := hreported e rfl
        exact ⟨e, w', events, last, own, rfl, by simpa using hevaluated, hh, hmessage⟩
      | crashed c => cases hevaluated
  · rw [hr] at hevaluated
    cases hevaluated

end ShaderBundle.Generator
