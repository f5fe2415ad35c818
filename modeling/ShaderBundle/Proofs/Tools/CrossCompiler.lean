import ShaderBundle.Proofs.Tools.Outputs

/-!
# Runs of the cross compiler

The two outputs of a run are read and removed when it has ended with status 0 and its words are text. Any other run
ends the call before its outputs are looked at, so what it has written stays where it is: there it is found by the
next run for the same stage, and read in the place of an output that this run leaves out.

* `Outcome`, `Makes`: what a run does.
* `convert_run`: one call, given what is left of earlier ones.
* `leftovers_of_failed`: only runs that end a call early leave something.
* `convert_answers`: a call after any others.
-/

namespace ShaderBundle.CrossCompiler

open ShaderBundle.Action ShaderBundle.Tree

/-- Why the tool is not started, or its report and what it writes to each of its two outputs, if anything. -/
abbrev Outcome := Except StartFault (ProcessResult × Option Bytes × Option Bytes)

/-- What runs do, given the number of earlier ones, the command line and the tree. -/
abbrev Runs := Nat → List String → Tree → Outcome

/-- The run of a call has this outcome, in this tree and after so many earlier runs. -/
def Makes (c : CrossCompiler) (h : Host) (path : String) (stage : Stage) (target : Target) (n : Nat) (t : Tree) :
    Outcome → Prop
  | .error e => h.start n (c.command path stage target) t = .error e
  | .ok (r, text, description) => ∀ t1 t2, t.writeOutput h.here (c.sourcePath stage) text = .ok t1 →
      t1.writeOutput h.here (c.reflectionPath stage) description = .ok t2 →
        ∃ t', h.start n (c.command path stage target) t = .ok (r, t') ∧ t2.Same t'

/-- The tool does what is said of its runs. -/
def Does (c : CrossCompiler) (h : Host) (runs : Runs) : Prop :=
  ∀ n path stage target t, c.Makes h path stage target n t (runs n (c.command path stage target) t)

/-! ## Outputs -/

theorem sourceName_ne_reflectionName (stage : Stage) : sourceName stage ≠ reflectionName stage := by
  cases stage <;> decide

/-- The names of the outputs are free in the directory. -/
def Free (t : Tree) (s : Location) : Prop :=
  ∀ stage, t.get? (s ++ [sourceName stage]) = none ∧ t.get? (s ++ [reflectionName stage]) = none

/-- The files after a run: an output that it does not write is as it was. -/
def written (left : Files) (stage : Stage) (text description : Option Bytes) : Files :=
  Function.update (Function.update left (sourceName stage) (text.or (left (sourceName stage))))
    (reflectionName stage) (description.or (left (reflectionName stage)))

theorem written_source (left : Files) (stage : Stage) (text description : Option Bytes) :
    written left stage text description (sourceName stage) = text.or (left (sourceName stage)) := by
  rw [written, Function.update_of_ne (sourceName_ne_reflectionName stage), Function.update_self]

theorem written_reflection (left : Files) (stage : Stage) (text description : Option Bytes) :
    written left stage text description (reflectionName stage) = description.or (left (reflectionName stage)) := by
  rw [written, Function.update_self]

/-- The files without the outputs for this stage. -/
def taken (left : Files) (stage : Stage) : Files :=
  Function.update (Function.update left (sourceName stage) none) (reflectionName stage) none

theorem written_eq_some {left : Files} {stage : Stage} {text description : Option Bytes} {n : String} {bytes : Bytes}
    (hw : written left stage text description n = some bytes) :
    left n = some bytes ∨ n = sourceName stage ∧ text = some bytes ∨
      n = reflectionName stage ∧ description = some bytes := by
  by_cases hsource : n = sourceName stage
  · rw [hsource, written_source, Option.or_eq_some_iff] at hw
    rcases hw with htext | ⟨-, hleft⟩
    · exact .inr (.inl ⟨hsource, htext⟩)
    · exact .inl (hsource ▸ hleft)
  · by_cases hreflection : n = reflectionName stage
    · rw [hreflection, written_reflection, Option.or_eq_some_iff] at hw
      rcases hw with hdescription | ⟨-, hleft⟩
      · exact .inr (.inr ⟨hreflection, hdescription⟩)
      · exact .inl (hreflection ▸ hleft)
    · rw [written, Function.update_of_ne hreflection, Function.update_of_ne hsource] at hw
      exact .inl hw

theorem taken_eq_some {left : Files} {stage : Stage} {n : String} {bytes : Bytes}
    (ht : taken left stage n = some bytes) : left n = some bytes := by
  by_cases hreflection : n = reflectionName stage
  · rw [hreflection, taken, Function.update_self] at ht
    cases ht
  · rw [taken, Function.update_of_ne hreflection] at ht
    by_cases hsource : n = sourceName stage
    · rw [hsource, Function.update_self] at ht
      cases ht
    · rwa [Function.update_of_ne hsource] at ht

theorem taken_of_none {left : Files} {stage : Stage} (hsource : left (sourceName stage) = none)
    (hreflection : left (reflectionName stage) = none) : taken left stage = left := by
  unfold taken
  nth_rewrite 1 [← hsource]
  rw [Function.update_eq_self, ← hreflection, Function.update_eq_self]

/-- Nothing of a run remains once its outputs are taken. -/
theorem taken_written (left : Files) (stage : Stage) (text description : Option Bytes) :
    taken (written left stage text description) stage = taken left stage := by
  rw [taken, taken, written, Function.update_comm (sourceName_ne_reflectionName stage).symm, Function.update_idem,
    Function.update_idem]

/-- The files after a call. Outputs are taken if the run has succeeded. -/
def leaves (left : Files) (stage : Stage) : Outcome → Files
  | .error _ => left
  | .ok (r, text, description) =>
    if r.Succeeds then taken (written left stage text description) stage
    else written left stage text description

/-- What is made of the outputs: both of them, or what is wrong with them. -/
def held (c : CrossCompiler) (stage : Stage) (files : Files) : Except String (String × Bytes) := do
  let bytes ← (files.read c.scratch (sourceName stage)).mapError FileError.message
  let source ← (Text.Utf8.decode bytes).mapError Text.DecodeFault.message
  let reflection ← (files.read c.scratch (reflectionName stage)).mapError FileError.message
  return (source, reflection)

theorem held_eq_ok {c : CrossCompiler} {stage : Stage} {files : Files} {text : String} {description : Bytes} :
    c.held stage files = .ok (text, description) ↔
      ∃ bytes, files (sourceName stage) = some bytes ∧ Text.Utf8.decode bytes = .ok text ∧
        files (reflectionName stage) = some description := by
  unfold held
  simp only [bind_eq_ok, mapError_eq_ok, Files.read_eq_ok]
  constructor
  · rintro ⟨bytes, hbytes, source, hsource, reflection, hreflection, heq⟩
    cases heq
    exact ⟨bytes, hbytes, hsource, hreflection⟩
  · rintro ⟨bytes, hbytes, hsource, hreflection⟩
    exact ⟨bytes, hbytes, text, hsource, description, hreflection, rfl⟩

/-- What is answered after a run. -/
def answer (c : CrossCompiler) (path : String) (stage : Stage) (target : Target) (left : Files) :
    Outcome → Except Failure (String × Bytes)
  | .error (.refused e) => .error (.reported { cause := .tool (.cannotRun (some path) c.tool e) (some c.tool) "" })
  | .error (.unfit k) => .error (.crashed k)
  | .ok (r, text, description) =>
    match r.read with
    | .error fault => .error (.crashed (.undecodable fault))
    | .ok report =>
      if report.status = 0 then
        match c.held stage (written left stage text description) with
        | .ok found => .ok found
        | .error detail =>
          .error (.reported { cause := .tool (.noOutput path target.label c.tool detail) (some c.tool) "" })
      else
        .error (.reported
          { cause := .tool (.failed path (some target.label) c.tool report.status) (some c.tool) report.stderr })

/-! ## One call -/

variable {h : Host} {c : CrossCompiler} {runs : Runs} {t0 : Tree} {s : Location} {left : Files} {w : World}
  {path : String} {stage : Stage} {target : Target} {outcome : Outcome}

theorem stageOf_run (hstage : Stage.ofPath? (.ofText path) = some stage) (w : World) :
    stageOf path w = (.ok stage, w) := by
  unfold stageOf
  rw [hstage]
  rfl

section
variable (hd : Folder t0 h.here c.scratch s) (hfree : Free t0 s)
include hd hfree

theorem writeOutputs {t : Tree} (ha : Adds t0 s left t) (stage : Stage) (text description : Option Bytes) :
    ∃ t1 t2, t.writeOutput h.here (c.sourcePath stage) text = .ok t1 ∧
      t1.writeOutput h.here (c.reflectionPath stage) description = .ok t2 ∧
      Adds t0 s (written left stage text description) t2 := by
  obtain ⟨t1, ht1, ha1⟩ := hd.writeOutput ha (isName_source stage) (hfree stage).1 text
  obtain ⟨t2, ht2, ha2⟩ := hd.writeOutput ha1 (isName_reflection stage) (hfree stage).2 description
  rw [Function.update_of_ne (sourceName_ne_reflectionName stage).symm] at ha2
  exact ⟨t1, t2, ht1, ht2, ha2⟩

theorem outputs_adds {t : Tree} (ha : Adds t0 s left t) (stage : Stage) :
    c.outputs h stage t = c.held stage left := by
  have hsource : t.readFile h.here (c.sourcePath stage) = left.read c.scratch (sourceName stage) :=
    hd.readFile ha (isName_source stage) (hfree stage).1
  have hreflection : t.readFile h.here (c.reflectionPath stage) = left.read c.scratch (reflectionName stage) :=
    hd.readFile ha (isName_reflection stage) (hfree stage).2
  rw [outputs, held, hsource, hreflection]

theorem takeOutputs_run (ha : Adds t0 s left w.tree) (path : String) (stage : Stage) (target : Target) :
    ∃ t, c.takeOutputs h path stage target w =
        (match c.held stage left with
          | .ok found => .ok found
          | .error detail =>
            .error (.reported { cause := .tool (.noOutput path target.label c.tool detail) (some c.tool) "" }),
        { w with tree := t }) ∧
      Adds t0 s (taken left stage) t := by
  obtain ⟨t, hdiscard, ha'⟩ := discard_two hd ha (isName_source stage) (isName_reflection stage) (hfree stage).1
    (hfree stage).2
  have hbody : (match c.outputs h stage w.tree with
      | .ok found => return found
      | .error detail => fail (.tool (.noOutput path target.label c.tool detail) (some c.tool) "") : Action _) w =
      (match c.held stage left with
        | .ok found => .ok found
        | .error detail =>
          .error (.reported { cause := .tool (.noOutput path target.label c.tool detail) (some c.tool) "" }), w) := by
    rw [outputs_adds hd hfree ha]
    cases c.held stage left <;> rfl
  exact ⟨t, ensure_run hbody hdiscard, ha'⟩

/-- A call answers for what is there after its run. -/
theorem convert_run (ha : Adds t0 s left w.tree) (hstage : Stage.ofPath? (.ofText path) = some stage)
    (hmakes : c.Makes h path stage target w.runs.length w.tree outcome) :
    ∃ w', c.convert h path target w = (c.answer path stage target left outcome, w') ∧
      w'.runs = w.runs ++ [c.command path stage target] ∧ Adds t0 s (leaves left stage outcome) w'.tree := by
  unfold convert
  rw [bind_run_ok (stageOf_run hstage w), bind_run, run_run]
  cases outcome with
  | error fault =>
    rw [show h.start w.runs.length (c.command path stage target) w.tree = .error fault from hmakes]
    cases fault <;> exact ⟨started (c.command path stage target) w, rfl, rfl, ha⟩
  | ok out =>
    obtain ⟨r, text, description⟩ := out
    obtain ⟨t1, t2, ht1, ht2, ha2⟩ := writeOutputs hd hfree ha stage text description
    obtain ⟨t', hstart, hsame⟩ := hmakes t1 t2 ht1 ht2
    have ha' := ha2.same hsame
    rw [hstart]
    cases hread : r.read with
    | error fault =>
      simp only [hread, answer, leaves, if_neg (ProcessResult.not_succeeds_of_read hread)]
      exact ⟨_, rfl, rfl, ha'⟩
    | ok report =>
      simp only [hread, answer, leaves, ProcessResult.succeeds_of_read hread]
      obtain ⟨entries, hlog⟩ := logWords_run .debug report.stdout
        { started (c.command path stage target) w with tree := t' }
      rw [bind_run_ok hlog]
      by_cases hstatus : report.status = 0
      · simp only [hstatus, ne_eq, not_true_eq_false, if_false, if_true]
        obtain ⟨entries', hlog'⟩ := logWords_run .debug report.stderr
          { started (c.command path stage target) w with tree := t', log := _ ++ entries }
        rw [bind_run_ok hlog']
        obtain ⟨t, htake, hat⟩ := takeOutputs_run (w := { started (c.command path stage target) w with
          tree := t', log := _ ++ entries ++ entries' }) hd hfree ha' path stage target
        exact ⟨_, htake, rfl, hat⟩
      · simp only [hstatus, ne_eq, not_false_eq_true, if_true, if_false]
        obtain ⟨entries', hlog'⟩ := logWords_run .warning report.stderr
          { started (c.command path stage target) w with tree := t', log := _ ++ entries }
        rw [bind_run_ok hlog']
        exact ⟨_, rfl, rfl, ha'⟩

end

/-- A file that is of no stage is not given to the tool. -/
theorem convert_unknown (hstage : Stage.ofPath? (.ofText path) = none) :
    c.convert h path target w = (.error (.reported { cause := .tool (.unknownStage path) none "" }), w) := by
  have hfirst : stageOf path w = (.error (.reported { cause := .tool (.unknownStage path) none "" }), w) := by
    unfold stageOf
    rw [hstage]
    rfl
  exact bind_run_error hfirst

theorem answer_eq_ok {text : String} {description : Bytes} :
    c.answer path stage target left outcome = .ok (text, description) ↔
      ∃ r x y bytes, outcome = .ok (r, x, y) ∧ r.Succeeds ∧ x.or (left (sourceName stage)) = some bytes ∧
        Text.Utf8.decode bytes = .ok text ∧ y.or (left (reflectionName stage)) = some description := by
  rcases outcome with (e | _) | ⟨r, x, y⟩
  · simp [answer]
  · simp [answer]
  have hheld : c.held stage (written left stage x y) = .ok (text, description) ↔ _ := held_eq_ok
  rw [written_source, written_reflection] at hheld
  constructor
  · intro h
    simp only [answer] at h
    split at h
    · cases h
    · next report hread =>
      split at h
      · next hstatus =>
        split at h
        · next found hfound =>
          cases h
          obtain ⟨bytes, hbytes, hdecode, hdescription⟩ := hheld.mp hfound
          exact ⟨r, x, y, bytes, rfl, ⟨report, hread, hstatus⟩, hbytes, hdecode, hdescription⟩
        · cases h
      · cases h
  · rintro ⟨r', x', y', bytes, h, ⟨report, hread, hstatus⟩, hbytes, hdecode, hdescription⟩
    cases h
    simp only [answer, hread]
    rw [if_pos hstatus, hheld.mpr ⟨bytes, hbytes, hdecode, hdescription⟩]

/-- A call fails with an error about the tool, or with the crash of its run. -/
theorem answer_error (hd : Folder t0 h.here c.scratch s) (hfree : Free t0 s) (ha : Adds t0 s left w.tree)
    (hmakes : c.Makes h path stage target w.runs.length w.tree outcome) {failure : Failure}
    (he : c.answer path stage target left outcome = .error failure) :
    (∃ problem tool words, failure = .reported { cause := .tool problem tool words }) ∨
      ∃ k, failure = .crashed k ∧ h.RunCrashes w.runs.length (c.command path stage target) w.tree k := by
  unfold answer at he
  split at he
  · cases he
    exact .inl ⟨_, _, _, rfl⟩
  · cases he
    exact .inr ⟨_, rfl, .unfit (Host.start_eq_unfit.mp hmakes)⟩
  · next r text description =>
    split at he
    · next fault hread =>
      cases he
      obtain ⟨t1, t2, ht1, ht2, -⟩ := writeOutputs hd hfree ha stage text description
      obtain ⟨t', hstart, -⟩ := hmakes t1 t2 ht1 ht2
      exact .inr ⟨_, rfl, .illegible hstart hread⟩
    · split at he
      · split at he
        · cases he
        · cases he
          exact .inl ⟨_, _, _, rfl⟩
      · cases he
        exact .inl ⟨_, _, _, rfl⟩

/-! ## Calls one after the other -/

structure Call where
  path : String
  target : Target

/-- A run that has taken place: for which stage, and how it has ended. -/
structure Deed where
  stage : Stage
  outcome : Outcome

namespace Deed

/-- It has ended with a status other than 0, or has printed what is no text. -/
def Failed (d : Deed) : Prop :=
  match d.outcome with
  | .ok (r, _, _) => ¬r.Succeeds
  | .error _ => False

/-- It has written this to the file with this name. -/
def Wrote (d : Deed) (n : String) (bytes : Bytes) : Prop :=
  match d.outcome with
  | .ok (_, text, description) =>
    n = sourceName d.stage ∧ text = some bytes ∨ n = reflectionName d.stage ∧ description = some bytes
  | .error _ => False

end Deed

/-- What the run of a call does, if the stage is known. -/
def deed? (c : CrossCompiler) (runs : Runs) (call : Call) (w : World) : Option Deed :=
  (Stage.ofPath? (.ofText call.path)).map fun stage =>
    ⟨stage, runs w.runs.length (c.command call.path stage call.target) w.tree⟩

/-- The world after a call, whatever it answers. -/
def after (c : CrossCompiler) (h : Host) (w : World) (call : Call) : World := (c.convert h call.path call.target w).2

def deeds (c : CrossCompiler) (h : Host) (runs : Runs) : List Call → World → List Deed
  | [], _ => []
  | call :: calls, w => (c.deed? runs call w).toList ++ c.deeds h runs calls (c.after h w call)

/-- The files that are left after runs. -/
def leftovers (left : Files) (deeds : List Deed) : Files := deeds.foldl (fun left d => leaves left d.stage d.outcome) left

theorem leftovers_append (left : Files) (ds ds' : List Deed) :
    leftovers left (ds ++ ds') = leftovers (leftovers left ds) ds' := List.foldl_append

/-- What is there after a run was there before, or the run has failed and has written it. -/
theorem leaves_eq_some {d : Deed} {n : String} {bytes : Bytes} (hl : leaves left d.stage d.outcome n = some bytes) :
    left n = some bytes ∨ d.Failed ∧ d.Wrote n bytes := by
  obtain ⟨stage, outcome⟩ := d
  cases outcome with
  | error e => exact .inl hl
  | ok out =>
    obtain ⟨r, text, description⟩ := out
    simp only [leaves] at hl
    by_cases hr : r.Succeeds
    · rw [if_pos hr, taken_written] at hl
      exact .inl (taken_eq_some hl)
    · rw [if_neg hr] at hl
      exact (written_eq_some hl).imp id fun hwrote => ⟨hr, hwrote⟩

/-- Only failed runs leave something, and what they leave is what they have written. -/
theorem leftovers_of_failed {ds : List Deed} {n : String} {bytes : Bytes} (hl : leftovers left ds n = some bytes) :
    left n = some bytes ∨ ∃ d ∈ ds, d.Failed ∧ d.Wrote n bytes := by
  induction ds generalizing left with
  | nil => exact .inl hl
  | cons d ds ih =>
    rcases ih hl with hl | ⟨d', hmem, hd'⟩
    · exact (leaves_eq_some hl).imp id fun hd => ⟨d, List.mem_cons_self, hd⟩
    · exact .inr ⟨d', List.mem_cons_of_mem d hmem, hd'⟩

section
variable (hd : Folder t0 h.here c.scratch s) (hfree : Free t0 s) (hdoes : c.Does h runs)
include hd hfree hdoes

/-- One call leaves what its run leaves. -/
theorem after_adds (ha : Adds t0 s left w.tree) (call : Call) :
    Adds t0 s (leftovers left (c.deed? runs call w).toList) (c.after h w call).tree := by
  unfold deed? after
  cases hstage : Stage.ofPath? (.ofText call.path) with
  | none =>
    rw [convert_unknown hstage]
    exact ha
  | some stage =>
    obtain ⟨w', hrun, -, ha'⟩ := convert_run hd hfree ha hstage (hdoes w.runs.length call.path stage call.target w.tree)
    rw [hrun]
    exact ha'

/-- All calls leave what their runs leave. -/
theorem foldl_after_adds (calls : List Call) (ha : Adds t0 s left w.tree) :
    Adds t0 s (leftovers left (c.deeds h runs calls w)) (calls.foldl (c.after h) w).tree := by
  induction calls generalizing left w with
  | nil => exact ha
  | cons call calls ih =>
    rw [deeds, leftovers_append, List.foldl_cons]
    exact ih (after_adds hd hfree hdoes ha call)

end

/-- After any calls, a call returns the two outputs of its stage that are there once its own run has succeeded:
those of this run, and in the place of one that it has not written, what a failed run for the stage has left.
Otherwise it fails, with an error about the tool or with the crash of its run. -/
theorem convert_answers (hd : Folder w.tree h.here c.scratch s) (hfree : Free w.tree s) (hdoes : c.Does h runs)
    (calls : List Call) (call : Call) {result : Except Failure (String × Bytes)} {w' : World}
    (hc : c.convert h call.path call.target (calls.foldl (c.after h) w) = (result, w')) :
    let left := leftovers noFiles (c.deeds h runs calls w)
    let before := calls.foldl (c.after h) w
    (∀ text description, result = .ok (text, description) ↔ ∃ stage r x y bytes,
      c.deed? runs call before = some ⟨stage, .ok (r, x, y)⟩ ∧ r.Succeeds ∧
        x.or (left (sourceName stage)) = some bytes ∧ Text.Utf8.decode bytes = .ok text ∧
        y.or (left (reflectionName stage)) = some description) ∧
    (∀ failure, result = .error failure →
      (∃ problem tool words, failure = .reported { cause := .tool problem tool words }) ∨
      ∃ stage k, Stage.ofPath? (.ofText call.path) = some stage ∧ failure = .crashed k ∧
        h.RunCrashes before.runs.length (c.command call.path stage call.target) before.tree k) ∧
    ∀ n bytes, left n = some bytes → ∃ d ∈ c.deeds h runs calls w, d.Failed ∧ d.Wrote n bytes := by
  have ha := foldl_after_adds hd hfree hdoes calls (adds_none.mpr (Same.refl w.tree))
  intro left before
  unfold deed?
  refine ⟨?_, ?_, fun n bytes hl => (leftovers_of_failed hl).resolve_left fun hnone => by cases hnone⟩
  all_goals cases hstage : Stage.ofPath? (.ofText call.path)
  case refine_1.none =>
    rw [convert_unknown hstage] at hc
    cases hc
    intro text description
    constructor
    · intro h
      cases h
    · rintro ⟨stage, r, x, y, bytes, h, -⟩
      cases h
  case refine_1.some stage =>
    obtain ⟨w1, hrun, -⟩ := convert_run hd hfree ha hstage (hdoes _ call.path stage call.target _)
    rw [hrun] at hc
    cases hc
    intro text description
    rw [answer_eq_ok]
    simp only [Option.map_some, Option.some.injEq, Deed.mk.injEq]
    constructor
    · rintro ⟨r, x, y, bytes, houtcome, hrest⟩
      exact ⟨stage, r, x, y, bytes, ⟨rfl, houtcome⟩, hrest⟩
    · rintro ⟨stage', r, x, y, bytes, ⟨rfl, houtcome⟩, hrest⟩
      exact ⟨r, x, y, bytes, houtcome, hrest⟩
  case refine_2.none =>
    rw [convert_unknown hstage] at hc
    cases hc
    rintro failure h
    cases h
    exact .inl ⟨_, _, _, rfl⟩
  case refine_2.some stage =>
    have hmakes := hdoes before.runs.length call.path stage call.target before.tree
    obtain ⟨w1, hrun, -⟩ := convert_run hd hfree ha hstage hmakes
    rw [hrun] at hc
    cases hc
    exact fun failure h => (answer_error hd hfree ha hmakes h).imp id fun ⟨k, hk⟩ => ⟨stage, k, rfl, hk⟩

/-! All runs are those of some tool, but none is made of a command line with a NUL in it. In this one the first run
fails, and leaves both outputs all the same; the second one ends well, and leaves nothing. -/

/-- The stage that an option stands for. In a command line it has the same place always. -/
def stageOfFlag (flag : String) : Stage := if flag = Stage.vertex.flag then .vertex else .fragment

def tools (c : CrossCompiler) (here : Location)
    (runs : Nat → List String → Tree → Except FileError (ProcessResult × Option Bytes × Option Bytes)) : Tools :=
  fun n argv t => do
    let (r, text, description) ← runs n argv t
    let t1 ← t.writeOutput here (c.sourcePath (stageOfFlag (argv.getD 12 ""))) text
    let t2 ← t1.writeOutput here (c.reflectionPath (stageOfFlag (argv.getD 12 ""))) description
    return (r, t2)

theorem does_tools (c : CrossCompiler) (h : Host)
    (runs : Nat → List String → Tree → Except FileError (ProcessResult × Option Bytes × Option Bytes)) :
    c.Does { h with tools := c.tools h.here runs } fun n argv t => ifPlain argv (runs n argv t) := by
  intro n path stage target t
  have hstage : stageOfFlag ((c.command path stage target).getD 12 "") = stage := by
    cases stage <;> rfl
  unfold Makes
  split
  · next hx =>
    refine ifPlain_eq_error (fun e he => ?_) hx
    dsimp only [tools]
    rw [he]
    rfl
  · next r text description hx =>
    obtain ⟨hplain, hx⟩ := ifPlain_eq_ok.mp hx
    intro t1 t2 ht1 ht2
    refine ⟨t2, Host.start_eq_ok.mpr ⟨hplain, ?_⟩, Same.refl t2⟩
    dsimp only [tools] at ht1 ht2 ⊢
    rw [hx, hstage]
    dsimp only [bind, Except.bind]
    rw [ht1]
    dsimp only
    rw [ht2]
    rfl

def staleRuns : Nat → List String → Tree → Except FileError (ProcessResult × Option Bytes × Option Bytes) := fun n _ _ =>
  if n = 0 then .ok ({ status := 1 }, some (Text.toUtf8 "first"), some (Text.toUtf8 "{}")) else .ok ({}, none, none)

def staleCompiler : CrossCompiler := ⟨"glslcc", .ofText "/w", .ofText "/w/tmp", false⟩

def staleHost : Host where
  here := ["w"]
  toolPath := []
  scratchRoot := "/w"
  scratchName := "tmp"
  tools := staleCompiler.tools ["w"] staleRuns

def staleTree : Tree := ⟨[(["w"], .directory), (["w", "tmp"], .directory)]⟩

theorem convert_stale : ∃ w', staleCompiler.convert staleHost "a.vert" .gles300
      ([⟨"a.vert", .gles100⟩].foldl (staleCompiler.after staleHost) { tree := staleTree }) =
    (.ok ("first", Text.toUtf8 "{}"), w') := by
  have hd : Folder staleTree staleHost.here staleCompiler.scratch ["w", "tmp"] := ⟨Path.proper_ofText _, rfl, rfl⟩
  have hfree : Free staleTree ["w", "tmp"] := by
    intro stage
    cases stage <;> decide
  rcases hc : staleCompiler.convert staleHost "a.vert" .gles300
      ([⟨"a.vert", .gles100⟩].foldl (staleCompiler.after staleHost) { tree := staleTree }) with ⟨result, w'⟩
  obtain ⟨hok, -, -⟩ := convert_answers (w := { tree := staleTree }) hd hfree
    (does_tools staleCompiler staleHost staleRuns) [⟨"a.vert", .gles100⟩] ⟨"a.vert", .gles300⟩ hc
  have hresult : result = .ok ("first", Text.toUtf8 "{}") := by
    refine (hok _ _).mpr ⟨.vertex, {}, none, none, Text.toUtf8 "first", ?_, ⟨⟨0, "", ""⟩, rfl, rfl⟩, ?_, ?_, ?_⟩
    · rfl
    · rfl
    · decide +kernel
    · rfl
  exact ⟨w', hc.trans (by rw [hresult])⟩

end ShaderBundle.CrossCompiler
