import ShaderBundle.Bytecode
import ShaderBundle.Proofs.Action.Writing
import ShaderBundle.Proofs.Tools.Outputs

/-!
# Runs of the bytecode compiler

A source is compiled for the restricted profile, and for the other one if that run fails or leaves no output. Both
runs use the same two scratch files, which are gone after each of them: so the second run finds nothing of the
first one, and what is returned is what the last run has written. There is no second run after one that prints what
is no text, and no run at all for a source that cannot be encoded, or with a NUL in the name of the entry point.

* `Runs`, `Fxc.Does`: what the runs of a tool do, whatever that depends on.
* `compile_run`: one run.
* `compile_falls_back`: the one or two runs for a source.
-/

namespace ShaderBundle

open ShaderBundle.Action ShaderBundle.Tree

namespace Bytecode

/-- Why the tool is not started, or its report and what it writes to its output, if anything. -/
abbrev Outcome := Except StartFault (ProcessResult × Option Bytes)

/-- What runs do, given the number of earlier ones, the command line and the tree. -/
abbrev Runs := Nat → List String → Tree → Outcome

/-- The tool fails, or leaves no output. -/
def Rejects : Outcome → Prop
  | .ok (r, content) =>
    match r.read with
    | .ok report => report.status ≠ 0 ∨ content = none
    | .error _ => False
  | .error _ => False

instance (outcome : Outcome) : Decidable (Rejects outcome) := by
  unfold Rejects
  split
  · split <;> infer_instance
  · infer_instance

namespace Fxc

/-- Where the source can be read, the tool does what is said of its runs. -/
structure Does (c : Fxc) (h : Host) (runs : Runs) : Prop where
  refused : ∀ n entry profile t source e, t.readFile h.here c.sourcePath = .ok source →
    runs n (c.command entry profile) t = .error e → h.start n (c.command entry profile) t = .error e
  done : ∀ n entry profile t source r content t1, t.readFile h.here c.sourcePath = .ok source →
    runs n (c.command entry profile) t = .ok (r, content) → t.writeOutput h.here c.outputPath content = .ok t1 →
      ∃ t', h.start n (c.command entry profile) t = .ok (r, t') ∧ t1.Same t'

/-- What is answered after a run. -/
def answer (c : Fxc) (profile : String) : Outcome → Except Failure Bytes
  | .error (.refused e) => .error (.reported { cause := .tool (.cannotRun none c.tool e) (some c.tool) "" })
  | .error (.unfit k) => .error (.crashed k)
  | .ok (r, content) =>
    match r.read with
    | .error fault => .error (.crashed (.undecodable fault))
    | .ok report =>
      if report.status ≠ 0 then .error (.reported { cause := .bytecode profile report.stderr })
      else
        match content with
        | some bytes => .ok bytes
        | none =>
          .error (.reported
            { cause := .bytecode profile s!"no output: {FileError.message ⟨.missing, c.outputPath⟩}" })

end Fxc

variable {h : Host} {c : Fxc} {runs : Runs} {t0 : Tree} {s : Location} {files : Files} {w : World}

/-! ## One run -/

section
variable (hd : Folder t0 h.here c.scratch s) (hsource : t0.get? (s ++ ["shader.hlsl"]) = none)
  (houtput : t0.get? (s ++ ["shader.cso"]) = none) (hdoes : c.Does h runs)
include hd hsource houtput hdoes

theorem runTool_run (entry profile : String) (ha : Adds t0 s files w.tree) {input : Bytes}
    (hinput : files "shader.hlsl" = some input) (hclean : files "shader.cso" = none) :
    ∃ content w1, Fxc.runTool h c entry profile w =
        (c.answer profile (runs w.runs.length (c.command entry profile) w.tree), w1) ∧
      w1.runs = w.runs ++ [c.command entry profile] ∧
      Adds t0 s (Function.update files "shader.cso" content) w1.tree := by
  have hread := (hd.readFile_eq_ok ha isName_hlsl hsource).mpr hinput
  unfold Fxc.runTool
  rw [bind_run, run_run]
  cases hx : runs w.runs.length (c.command entry profile) w.tree with
  | error fault =>
    rw [hdoes.refused _ _ _ _ _ _ hread hx]
    have ha' : Adds t0 s (Function.update files "shader.cso" none) w.tree := by
      rwa [← hclean, Function.update_eq_self]
    cases fault <;> exact ⟨none, started (c.command entry profile) w, rfl, rfl, ha'⟩
  | ok out =>
    obtain ⟨r, content⟩ := out
    obtain ⟨t1, hwrite, ha1⟩ := hd.writeOutput ha isName_cso houtput content
    obtain ⟨t', hstart, hsame⟩ := hdoes.done _ _ _ _ _ _ _ _ hread hx hwrite
    rw [hclean, Option.or_none] at ha1
    have ha' := ha1.same hsame
    rw [hstart]
    refine ⟨content, { started (c.command entry profile) w with tree := t' }, ?_, rfl, ha'⟩
    cases hwords : r.read with
    | error fault => simp only [hwords, Fxc.answer]
    | ok report =>
      simp only [hwords, Fxc.answer]
      by_cases hstatus : report.status = 0
      · simp only [hstatus, ne_eq, not_true_eq_false, if_false]
        rw [bind_run, ask_run]
        cases content with
        | some bytes =>
          have hfound : t'.readFile h.here c.outputPath = .ok bytes :=
            (hd.readFile_eq_ok ha' isName_cso houtput).mpr (Function.update_self ..)
          simp only [hfound]
          rfl
        | none =>
          have hmissing : t'.readFile h.here c.outputPath = .error ⟨.missing, c.outputPath⟩ :=
            hd.readFile_missing ha' isName_cso houtput (Function.update_self ..)
          simp only [hmissing]
          rfl
      · simp only [hstatus, ne_eq, not_false_eq_true, if_true]
        rfl

/-- Whether it is started is not up to the tool. -/
theorem started_iff_plain {n : Nat} {t : Tree} (entry profile : String) (ha : Adds t0 s files t) {input : Bytes}
    (hinput : files "shader.hlsl" = some input) :
    ∀ k, runs n (c.command entry profile) t = .error (.unfit k) ↔
      (c.command entry profile).findSome? unfit? = some k := by
  intro k
  have hread := (hd.readFile_eq_ok ha isName_hlsl hsource).mpr hinput
  rw [← Host.start_eq_unfit (h := h) (n := n) (t := t)]
  cases hx : runs n (c.command entry profile) t with
  | error fault =>
    rw [hdoes.refused _ _ _ _ _ _ hread hx]
    simp
  | ok out =>
    obtain ⟨r, content⟩ := out
    obtain ⟨t1, hwrite, -⟩ := hd.writeOutput ha isName_cso houtput content
    obtain ⟨t', hstart, -⟩ := hdoes.done _ _ _ _ _ _ _ _ hread hx hwrite
    rw [hstart]
    simp

end

/-- A source that cannot be encoded is not compiled. -/
theorem compile_unencodable {source : String} {fault : Text.EncodeFault} (he : Text.encode source = .error fault)
    (entry profile : String) (w : World) :
    c.compile h source entry profile w = (.error (.crashed (.unencodable fault)), w) :=
  bind_run_error (save_unencodable he)

/-- A run answers for what the tool has done, and leaves the files as they were. -/
theorem compile_run {source : String} {t1 : Tree} (entry profile : String)
    (hsave : save h c.sourcePath source w = (.ok (.ok ()), { w with tree := t1 }))
    (hd : Folder w.tree h.here c.scratch s) (hsource : w.tree.get? (s ++ ["shader.hlsl"]) = none)
    (houtput : w.tree.get? (s ++ ["shader.cso"]) = none) (hdoes : c.Does h runs) :
    ∃ w', (∀ k, runs w.runs.length (c.command entry profile) t1 = .error (.unfit k) ↔
        (c.command entry profile).findSome? unfit? = some k) ∧
      c.compile h source entry profile w =
        (c.answer profile (runs w.runs.length (c.command entry profile) t1), w') ∧
      w'.runs = w.runs ++ [c.command entry profile] ∧ w.tree.Same w'.tree := by
  have ha : Adds w.tree s noFiles w.tree := adds_none.mpr (Same.refl _)
  obtain ⟨t, ht, ha1⟩ := hd.writeFile ha isName_hlsl hsource (Text.toUtf8 source)
  obtain ⟨-, -, t', hwrite, heq⟩ := save_ok hsave
  obtain rfl : t1 = t' := congrArg World.tree heq
  cases (show w.tree.writeFile h.here c.sourcePath _ = .ok t from ht).symm.trans hwrite
  have hinput : Function.update noFiles "shader.hlsl" (some (Text.toUtf8 source)) "shader.hlsl" = _ :=
    Function.update_self ..
  obtain ⟨content, w2, hrun, hruns, ha2⟩ := runTool_run (w := { w with tree := t1 }) hd hsource houtput hdoes entry
    profile ha1 hinput (Function.update_of_ne (by decide) ..)
  obtain ⟨t3, hdiscard, ha3⟩ := discard_two hd ha2 isName_hlsl isName_cso hsource houtput
  rw [update_taken rfl rfl] at ha3
  refine ⟨{ w2 with tree := t3 }, started_iff_plain hd hsource houtput hdoes entry profile ha1 hinput, ?_, hruns,
    adds_none.mp ha3⟩
  unfold Fxc.compile
  rw [bind_run_ok hsave]
  exact ensure_run hrun hdiscard

theorem save_source {source : String} (he : Text.Writable source) (htakes : h.Takes c.sourcePath) (hd : Folder w.tree h.here c.scratch s)
    (hsource : w.tree.get? (s ++ ["shader.hlsl"]) = none) :
    ∃ t1, w.tree.writeFile h.here c.sourcePath (Text.toUtf8 source) = .ok t1 ∧
      save h c.sourcePath source w = (.ok (.ok ()), { w with tree := t1 }) := by
  obtain ⟨t1, ht1, -⟩ := hd.writeFile (adds_none.mpr (Same.refl _)) isName_hlsl hsource (Text.toUtf8 source)
  exact ⟨t1, ht1, save_run he htakes.plain (htakes.whole _ _) ht1⟩

/-! ## Two runs -/

theorem answer_rejected (c : Fxc) (profile : String) {outcome : Outcome} (hr : Rejects outcome) :
    ∃ words, c.answer profile outcome = .error (.reported { cause := .bytecode profile words }) := by
  rcases outcome with e | ⟨r, content⟩
  · exact hr.elim
  simp only [Rejects] at hr
  cases hwords : r.read with
  | error fault =>
    rw [hwords] at hr
    exact hr.elim
  | ok report =>
    rw [hwords] at hr
    by_cases hstatus : report.status = 0
    · have hnone : content = none := hr.resolve_left fun hne => hne hstatus
      exact ⟨_, by simp only [Fxc.answer, hwords, hstatus, hnone, ne_eq, not_true_eq_false, if_false]; rfl⟩
    · exact ⟨_, by simp only [Fxc.answer, hwords, hstatus, ne_eq, not_false_eq_true, if_true]; rfl⟩

theorem answer_eq_ok {c : Fxc} {profile : String} {r : ProcessResult} {content : Option Bytes} {bytes : Bytes} :
    c.answer profile (.ok (r, content)) = .ok bytes ↔ r.Succeeds ∧ content = some bytes := by
  cases hwords : r.read with
  | error fault => simp [Fxc.answer, hwords, ProcessResult.not_succeeds_of_read hwords]
  | ok report =>
    simp only [Fxc.answer, hwords, ProcessResult.succeeds_of_read hwords]
    by_cases hstatus : report.status = 0
    · cases content <;> simp [hstatus]
    · simp [hstatus]

/-- Only a rejected source is answered with an error about its bytecode. -/
theorem answer_not_rejected (c : Fxc) (profile : String) {outcome : Outcome} (hr : ¬Rejects outcome)
    (profile' words : String) (context : Option String) :
    c.answer profile outcome ≠ .error (.reported ⟨.bytecode profile' words, context⟩) := by
  rcases outcome with (e | _) | ⟨r, content⟩
  · exact nofun
  · exact nofun
  simp only [Rejects] at hr
  cases hwords : r.read with
  | error fault =>
    simp only [Fxc.answer, hwords]
    exact nofun
  | ok report =>
    rw [hwords] at hr
    obtain ⟨hstatus, hcontent⟩ := not_or.mp hr
    obtain ⟨bytes, rfl⟩ := Option.ne_none_iff_exists'.mp hcontent
    simp only [Fxc.answer, hwords, hstatus, if_false]
    exact nofun

section
variable {α : Type} {body : Action α} {handler : Failure → String → Action α} {w1 : World}

theorem leads_onRejection {R : World → World → Prop} (hb : Leads R body) (hh : ∀ f words, Leads R (handler f words))
    (htrans : ∀ {w w1 w2}, R w w1 → R w1 w2 → R w w2) : Leads R (onRejection body handler) := by
  intro w
  have hw := hb w
  unfold onRejection
  split
  · next profile words context w1 hbody =>
    rw [hbody] at hw
    exact htrans hw (hh _ words w1)
  · exact hw

theorem onRejection_rejected {profile words : String} {context : Option String}
    (hb : body w = (.error (.reported ⟨.bytecode profile words, context⟩), w1)) :
    onRejection body handler w = handler (.reported ⟨.bytecode profile words, context⟩) words w1 := by
  unfold onRejection
  rw [hb]

/-- A handler that logs words and passes the failure on changes nothing but the log. -/
theorem onRejection_rethrown {level : Level} {result : Except Failure α} (hb : body w = (result, w1)) :
    ∃ entries, onRejection body (fun failure words => do logWords level words; throw failure) w =
      (result, { w1 with log := w1.log ++ entries }) := by
  unfold onRejection
  rw [hb]
  split
  · next profile words context w2 heq =>
    cases heq
    obtain ⟨entries, hlog⟩ := logWords_run level words w1
    exact ⟨entries, bind_run_ok hlog⟩
  · exact ⟨[], by rw [List.append_nil]⟩

theorem onRejection_other {result : Except Failure α} (hb : body w = (result, w1))
    (hr : ∀ profile words context, result ≠ .error (.reported ⟨.bytecode profile words, context⟩)) :
    onRejection body handler w = (result, w1) := by
  unfold onRejection
  rw [hb]
  split
  · next heq =>
    cases heq
    exact absurd rfl (hr _ _ _)
  · rfl

end

/-- How a source is compiled: with what is answered for the restricted profile, or, if that is a rejection, with
what is answered then for the other one. Between and after the two there are but words in the log. -/
inductive Attempts (compiler : BytecodeCompiler) (source : String) (stage : Stage) (entry : String) (w : World) :
    Except Failure Bytes × World → Prop
  | first {result w1} (hc : compiler source entry (compatibleProfile stage) w = (result, w1))
      (hr : ∀ profile words context, result ≠ .error (.reported ⟨.bytecode profile words, context⟩)) :
      Attempts compiler source stage entry w (result, w1)
  | second {profile words context w1 entries result w2 entries'}
      (hc : compiler source entry (compatibleProfile stage) w =
        (.error (.reported ⟨.bytecode profile words, context⟩), w1))
      (hc' : compiler source entry (fallbackProfile stage) { w1 with log := w1.log ++ entries } = (result, w2)) :
      Attempts compiler source stage entry w (result, { w2 with log := w2.log ++ entries' })

theorem attempts_compile (compiler : BytecodeCompiler) (source : String) (stage : Stage) (entry : String)
    (w : World) : Attempts compiler source stage entry w (compile compiler source stage entry w) := by
  rcases hc : compiler source entry (compatibleProfile stage) w with ⟨result, w1⟩
  unfold compile
  by_cases hr : ∃ profile words context, result = .error (.reported ⟨.bytecode profile words, context⟩)
  · obtain ⟨profile, words, context, rfl⟩ := hr
    rw [onRejection_rejected hc, bind_run_ok (log_run ..)]
    obtain ⟨entries, hlog⟩ := logWords_run .debug words
      { w1 with log := w1.log ++ [(.info, s!"{compatibleProfile stage} failed, retrying with {fallbackProfile stage}")] }
    rw [bind_run_ok hlog]
    dsimp only
    rw [List.append_assoc]
    rcases hc' : compiler source entry (fallbackProfile stage) { w1 with log := w1.log ++ (_ ++ entries) } with
      ⟨result, w2⟩
    obtain ⟨entries', hlast⟩ := onRejection_rethrown hc'
    rw [hlast]
    exact .second hc hc'
  · simp only [not_exists] at hr
    rw [onRejection_other hc hr]
    exact .first hc hr

/-- Where the scratch directory can be written, a source that can be encoded is compiled for the restricted profile,
and for the other one if and only if the first run fails or leaves no output. The answer is that of the last run.
A source that cannot be encoded is not compiled, and no tool is started for a name that cannot be given to the system.
All files are as they were. -/
theorem compile_falls_back (hd : Folder w.tree h.here c.scratch s)
    (hsource : w.tree.get? (s ++ ["shader.hlsl"]) = none) (houtput : w.tree.get? (s ++ ["shader.cso"]) = none)
    (htakes : h.Takes c.sourcePath) (hdoes : c.Does h runs) (source entry : String) (stage : Stage)
    {result : Except Failure Bytes} {w' : World} (hc : compile (c.compile h) source stage entry w = (result, w')) :
    match Text.encode source with
    | .error fault => result = .error (.crashed (.unencodable fault)) ∧ w' = w
    | .ok bytes => ∃ t1 t2, w.tree.writeFile h.here c.sourcePath bytes = .ok t1 ∧ t1.Same t2 ∧
      let first := runs w.runs.length (c.command entry (compatibleProfile stage)) t1
      let second := runs (w.runs.length + 1) (c.command entry (fallbackProfile stage)) t2
      w'.runs = w.runs ++ c.command entry (compatibleProfile stage) ::
        (if Rejects first then [c.command entry (fallbackProfile stage)] else []) ∧
      result = (if Rejects first then c.answer (fallbackProfile stage) second
        else c.answer (compatibleProfile stage) first) ∧
      (∀ k, first = .error (.unfit k) ↔ (c.command entry (compatibleProfile stage)).findSome? unfit? = some k) ∧
      w.tree.Same w'.tree := by
  have hattempts := attempts_compile (c.compile h) source stage entry w
  rw [hc] at hattempts
  clear hc
  cases he : Text.encode source with
  | error fault =>
    have hfirst := compile_unencodable (h := h) (c := c) he entry (compatibleProfile stage) w
    cases hattempts with
    | first hc hnot =>
      cases hfirst.symm.trans hc
      exact ⟨rfl, rfl⟩
    | second hc => cases hfirst.symm.trans hc
  | ok bytes =>
    obtain ⟨hwritable, rfl⟩ := Text.encode_eq_ok.mp he
    obtain ⟨t1, hwrite, hsave⟩ := save_source hwritable htakes hd hsource
    obtain ⟨w1, hplain, hfirst, hruns, hsame⟩ :=
      compile_run entry (compatibleProfile stage) hsave hd hsource houtput hdoes
    by_cases hr : Rejects (runs w.runs.length (c.command entry (compatibleProfile stage)) t1)
    · obtain ⟨words, hanswer⟩ := answer_rejected c (compatibleProfile stage) hr
      rw [hanswer] at hfirst
      cases hattempts with
      | first hc hnot =>
        cases hfirst.symm.trans hc
        exact absurd rfl (hnot _ _ _)
      | @second _ _ _ _ entries _ _ _ hc hc' =>
        cases hfirst.symm.trans hc
        have hd1 := hd.adds (adds_none.mpr hsame)
        have hsource1 := (hsame _).symm.trans hsource
        obtain ⟨t2, hwrite', hsave'⟩ :=
          save_source (w := { w1 with log := w1.log ++ entries }) hwritable htakes hd1 hsource1
        obtain ⟨w2, -, hsecond, hruns', hsame'⟩ :=
          compile_run entry (fallbackProfile stage) hsave' hd1 hsource1 ((hsame _).symm.trans houtput) hdoes
        cases hsecond.symm.trans hc'
        have hlength : w1.runs.length = w.runs.length + 1 := by
          rw [hruns, List.length_append, List.length_singleton]
        dsimp only at hruns' hsame' ⊢
        rw [hruns, List.append_assoc, List.singleton_append] at hruns'
        rw [hlength]
        refine ⟨t1, t2, hwrite, hsame.writeFile hwrite hwrite', ?_⟩
        rw [if_pos hr, if_pos hr]
        exact ⟨hruns', rfl, hplain, hsame.trans hsame'⟩
    · cases hattempts with
      | first hc hnot =>
        cases hfirst.symm.trans hc
        refine ⟨t1, t1, hwrite, Same.refl t1, ?_⟩
        intro first second
        rw [if_neg (show ¬Rejects first from hr), if_neg (show ¬Rejects first from hr)]
        exact ⟨hruns, rfl, hplain, hsame⟩
      | second hc hc' => exact absurd (congrArg Prod.fst (hfirst.symm.trans hc)) (answer_not_rejected c _ hr _ _ _)

/-! All runs are those of some tool, if none is made of a command line that cannot be given to the system. In this one the first run
fails, and leaves an output all the same. -/

def Fxc.tools (c : Fxc) (here : Location)
    (runs : Nat → List String → Tree → Except FileError (ProcessResult × Option Bytes)) : Tools := fun n argv t => do
  let (r, content) ← runs n argv t
  let t1 ← t.writeOutput here c.outputPath content
  return (r, t1)

theorem does_tools (c : Fxc) (h : Host)
    (runs : Nat → List String → Tree → Except FileError (ProcessResult × Option Bytes)) :
    c.Does { h with tools := c.tools h.here runs } fun n argv t => ifPlain argv (runs n argv t) where
  refused n entry profile t source fault _ hx := by
    refine ifPlain_eq_error (fun e he => ?_) hx
    dsimp only [Fxc.tools]
    rw [he]
    rfl
  done n entry profile t source r content t1 _ hx ht1 := by
    obtain ⟨hplain, hx⟩ := ifPlain_eq_ok.mp hx
    refine ⟨t1, Host.start_eq_ok.mpr ⟨hplain, ?_⟩, Same.refl t1⟩
    dsimp only [Fxc.tools] at ht1 ⊢
    rw [hx]
    dsimp only [bind, Except.bind]
    rw [ht1]
    rfl

def secondRuns : Nat → List String → Tree → Except FileError (ProcessResult × Option Bytes) := fun n _ _ =>
  if n = 0 then .ok ({ status := 1 }, some (Text.toUtf8 "first")) else .ok ({}, some (Text.toUtf8 "second"))

def secondFxc : Fxc := ⟨"fxc", .ofText "/w/tmp"⟩

def secondHost : Host where
  here := ["w"]
  toolPath := []
  scratchRoot := "/w"
  scratchName := "tmp"
  tools := secondFxc.tools ["w"] secondRuns

/-- The scratch directory holds another file. -/
def secondTree : Tree :=
  ⟨[(["w"], .directory), (["w", "tmp"], .directory), (["w", "tmp", "other"], .file [] false)]⟩

theorem compile_second : ∃ w', compile (secondFxc.compile secondHost) "x" .fragment "main" { tree := secondTree } =
      (.ok (Text.toUtf8 "second"), w') ∧ w'.runs.length = 2 ∧ secondTree.Same w'.tree := by
  have hd : Folder secondTree secondHost.here secondFxc.scratch ["w", "tmp"] := ⟨Path.proper_ofText _, rfl, rfl⟩
  rcases hc : compile (secondFxc.compile secondHost) "x" .fragment "main" { tree := secondTree } with ⟨result, w'⟩
  have htwo := compile_falls_back hd (by decide) (by decide) ⟨by decide, fun _ _ => rfl⟩
    (does_tools secondFxc secondHost secondRuns) "x" "main" .fragment hc
  rw [show Text.encode "x" = .ok (Text.toUtf8 "x") from Text.encode_eq_ok.mpr ⟨by decide, rfl⟩] at htwo
  obtain ⟨t1, t2, -, -, hruns, hresult, -, hsame⟩ := htwo
  have hfirst : Rejects (ifPlain (secondFxc.command "main" (compatibleProfile .fragment))
      (secondRuns ({ tree := secondTree : World }).runs.length
        (secondFxc.command "main" (compatibleProfile .fragment)) t1)) := .inl (by decide)
  rw [if_pos hfirst] at hruns hresult
  exact ⟨w', by rw [hresult]; rfl, by rw [hruns]; rfl, hsame⟩

end Bytecode

end ShaderBundle
