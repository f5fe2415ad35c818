import ShaderBundle.Proofs.Files.Holding
import ShaderBundle.Proofs.Generate.Confinement
import ShaderBundle.Proofs.Tools.Bytecode
import ShaderBundle.Proofs.Tools.CrossCompiler

/-!
# What tools make

Tools whose runs depend on their command lines and on the text of their input alone. A tool may leave out
an output, and then what has been there before would be read in its place: this cannot happen, as no run of
a tool finds an output of another.

* `Behaviour`, `Follows`: what tools make of their inputs, and a host whose tools do so.
* `convert_ok`: a translation is what the cross compiler makes of the rendered shader.
* `compile_ok`: bytecode is what the bytecode compiler makes of the HLSL text.
-/

namespace ShaderBundle

open ShaderBundle.Action ShaderBundle.Tree CrossCompiler

/-- For a command line and the text of the input: why the tool is not started, or its report and what it writes
to each of its outputs, if anything. -/
structure Behaviour where
  cross : List String → Bytes → CrossCompiler.Outcome
  bytecode : List String → Bytes → Bytecode.Outcome

/-- Where the input can be read and the outputs can be written, the tools do what they are said to do. -/
structure Follows (h : Host) (c : CrossCompiler) (fxc : Bytecode.Fxc) (b : Behaviour) : Prop where
  cross_error : ∀ n path stage target t source e, t.readFile h.here path = .ok source →
    b.cross (c.command path stage target) source = .error e → h.start n (c.command path stage target) t = .error e
  cross_ok : ∀ n path stage target t source r text description t1 t2, t.readFile h.here path = .ok source →
    b.cross (c.command path stage target) source = .ok (r, text, description) →
    t.writeOutput h.here (c.sourcePath stage) text = .ok t1 →
    t1.writeOutput h.here (c.reflectionPath stage) description = .ok t2 →
    ∃ t', h.start n (c.command path stage target) t = .ok (r, t') ∧ t2.Same t'
  bytecode_error : ∀ n entry profile t source e, t.readFile h.here fxc.sourcePath = .ok source →
    b.bytecode (fxc.command entry profile) source = .error e → h.start n (fxc.command entry profile) t = .error e
  bytecode_ok : ∀ n entry profile t source r content t1, t.readFile h.here fxc.sourcePath = .ok source →
    b.bytecode (fxc.command entry profile) source = .ok (r, content) →
    t.writeOutput h.here fxc.outputPath content = .ok t1 →
    ∃ t', h.start n (fxc.command entry profile) t = .ok (r, t') ∧ t1.Same t'

/-! Every behaviour that starts no tool for a command line that cannot be given to the system is that of the tools of some
host. A command line of the cross compiler has the option of the stage and then the path of the input at the same places always, and
that of the bytecode compiler ends before. -/

/-- There is nothing to be done for a command line that cannot be given to the system. -/
structure Behaviour.Plain (b : Behaviour) : Prop where
  cross : ∀ argv source k, b.cross argv source = .error (.unfit k) ↔ argv.findSome? unfit? = some k
  bytecode : ∀ argv source k, b.bytecode argv source = .error (.unfit k) ↔ argv.findSome? unfit? = some k

/-- What is not held up by its command line has a plain one. -/
theorem all_isPlain_of_ne {γ : Type} {argv : List String} {outcome : Except StartFault γ}
    (hf : ∀ k, outcome = .error (.unfit k) ↔ argv.findSome? unfit? = some k)
    (hne : ∀ k, outcome ≠ .error (.unfit k)) : argv.all isPlain = true := by
  rw [← findSome?_unfit?_eq_none, Option.eq_none_iff_forall_ne_some]
  exact fun k hk => hne k ((hf k).mpr hk)

def StartFault.file : StartFault → FileError
  | .refused e => e
  | .unfit _ => ⟨.missing, ""⟩

theorem StartFault.ifPlain_file {γ δ : Type} {argv : List String} {fault : StartFault}
    (hf : ∀ k, (.error fault : Except StartFault δ) = .error (.unfit k) ↔ argv.findSome? unfit? = some k) :
    ifPlain argv (.error fault.file : Except FileError γ) = .error fault := by
  cases fault with
  | unfit k => exact ifPlain_eq_unfit.mpr ((hf k).mp rfl)
  | refused e => exact ifPlain_of_plain (all_isPlain_of_ne hf nofun) _

def Behaviour.tools (b : Behaviour) (here : Location) (c : CrossCompiler) (fxc : Bytecode.Fxc) : Tools :=
  fun _ argv t =>
    match argv.drop 12 with
    | flag :: path :: _ => do
      let (r, text, description) ← (b.cross argv (← t.readFile here path)).mapError StartFault.file
      let t1 ← t.writeOutput here (c.sourcePath (stageOfFlag flag)) text
      let t2 ← t1.writeOutput here (c.reflectionPath (stageOfFlag flag)) description
      return (r, t2)
    | _ => do
      let (r, content) ← (b.bytecode argv (← t.readFile here fxc.sourcePath)).mapError StartFault.file
      let t1 ← t.writeOutput here fxc.outputPath content
      return (r, t1)

theorem tools_cross (b : Behaviour) (here : Location) (c : CrossCompiler) (fxc : Bytecode.Fxc) (n : Nat)
    (path : String) (stage : Stage) (target : Target) (t : Tree) :
    b.tools here c fxc n (c.command path stage target) t = (do
      let (r, text, description) ← (b.cross (c.command path stage target) (← t.readFile here path)).mapError
        StartFault.file
      let t1 ← t.writeOutput here (c.sourcePath stage) text
      let t2 ← t1.writeOutput here (c.reflectionPath stage) description
      return (r, t2)) := by
  cases stage <;> rfl

theorem follows_tools (h : Host) {b : Behaviour} (hb : b.Plain) (c : CrossCompiler) (fxc : Bytecode.Fxc) :
    Follows { h with tools := b.tools h.here c fxc } c fxc b where
  cross_error n path stage target t source e hsource hx := by
    have hplain := hb.cross (c.command path stage target) source
    rw [hx] at hplain
    have hrun : b.tools h.here c fxc n (c.command path stage target) t = .error e.file := by
      dsimp only at hsource
      rw [tools_cross, hsource]
      dsimp only [bind, Except.bind]
      rw [hx]
      rfl
    unfold Host.start
    dsimp only
    rw [hrun]
    exact StartFault.ifPlain_file hplain
  cross_ok n path stage target t source r text description t1 t2 hsource hx ht1 ht2 := by
    have hplain := hb.cross (c.command path stage target) source
    rw [hx] at hplain
    dsimp only at hsource ht1 ht2 ⊢
    refine ⟨t2, Host.start_eq_ok.mpr ⟨all_isPlain_of_ne hplain nofun, ?_⟩, Same.refl t2⟩
    dsimp only
    rw [tools_cross, hsource]
    dsimp only [bind, Except.bind]
    rw [hx]
    dsimp only [Except.mapError]
    rw [ht1]
    dsimp only
    rw [ht2]
    rfl
  bytecode_error n entry profile t source e hsource hx := by
    have hplain := hb.bytecode (fxc.command entry profile) source
    rw [hx] at hplain
    have hrun : b.tools h.here c fxc n (fxc.command entry profile) t = .error e.file := by
      dsimp only at hsource
      change (t.readFile h.here fxc.sourcePath >>= _) = _
      rw [hsource]
      dsimp only [bind, Except.bind]
      rw [hx]
      rfl
    unfold Host.start
    dsimp only
    rw [hrun]
    exact StartFault.ifPlain_file hplain
  bytecode_ok n entry profile t source r content t1 hsource hx ht1 := by
    have hplain := hb.bytecode (fxc.command entry profile) source
    rw [hx] at hplain
    dsimp only at hsource ht1 ⊢
    refine ⟨t1, Host.start_eq_ok.mpr ⟨all_isPlain_of_ne hplain nofun, ?_⟩, Same.refl t1⟩
    change (t.readFile h.here fxc.sourcePath >>= _) = _
    rw [hsource]
    dsimp only [bind, Except.bind]
    rw [hx]
    dsimp only [Except.mapError]
    rw [ht1]
    rfl

/-- The cross compiler translates a rendered shader to this text, with this description of it. -/
def Translated (b : Behaviour) (c : CrossCompiler) (file : String) (stage : Stage) (rendered : String)
    (target : Target) (text : String) (description : Bytes) : Prop :=
  ∃ r bytes, b.cross (c.command file stage target) (Text.toUtf8 rendered) = .ok (r, some bytes, some description) ∧
    r.Succeeds ∧ Text.Utf8.decode bytes = .ok text

/-- The bytecode compiler compiles a source for a profile. -/
def Accepted (b : Behaviour) (fxc : Bytecode.Fxc) (source entry profile : String) (content : Bytes) : Prop :=
  ∃ r, b.bytecode (fxc.command entry profile) (Text.toUtf8 source) = .ok (r, some content) ∧ r.Succeeds

/-- It fails on the source, or makes nothing of it. -/
def Rejected (b : Behaviour) (fxc : Bytecode.Fxc) (source entry profile : String) : Prop :=
  Bytecode.Rejects (b.bytecode (fxc.command entry profile) (Text.toUtf8 source))

/-- The bytecode of a source: that for the compatible profile, or else that for the other one. -/
def Compiled (b : Behaviour) (fxc : Bytecode.Fxc) (source : String) (stage : Stage) (entry : String)
    (content : Bytes) : Prop :=
  Text.Writable source ∧ (Accepted b fxc source entry (Bytecode.compatibleProfile stage) content ∨
    Rejected b fxc source entry (Bytecode.compatibleProfile stage) ∧
      Accepted b fxc source entry (Bytecode.fallbackProfile stage) content)

/-! What these tools make is said by what they are given. -/

theorem Translated.unique {b : Behaviour} {c : CrossCompiler} {file rendered text text' : String} {stage : Stage}
    {target : Target} {description description' : Bytes} (h : Translated b c file stage rendered target text description)
    (h' : Translated b c file stage rendered target text' description') : text = text' ∧ description = description' := by
  obtain ⟨r, bytes, hx, -, hdecode⟩ := h
  obtain ⟨r', bytes', hx', -, hdecode'⟩ := h'
  cases hx.symm.trans hx'
  cases hdecode.symm.trans hdecode'
  exact ⟨rfl, rfl⟩

theorem Accepted.unique {b : Behaviour} {fxc : Bytecode.Fxc} {source entry profile : String} {content content' : Bytes}
    (h : Accepted b fxc source entry profile content) (h' : Accepted b fxc source entry profile content') :
    content = content' := by
  obtain ⟨r, hx, -⟩ := h
  obtain ⟨r', hx', -⟩ := h'
  cases hx.symm.trans hx'
  rfl

theorem Accepted.not_rejected {b : Behaviour} {fxc : Bytecode.Fxc} {source entry profile : String} {content : Bytes}
    (h : Accepted b fxc source entry profile content) : ¬Rejected b fxc source entry profile := by
  obtain ⟨r, hx, report, hread, hstatus⟩ := h
  unfold Rejected
  rw [hx, Bytecode.Rejects, hread]
  simp [hstatus]

theorem Compiled.unique {b : Behaviour} {fxc : Bytecode.Fxc} {source entry : String} {stage : Stage}
    {content content' : Bytes} (h : Compiled b fxc source stage entry content)
    (h' : Compiled b fxc source stage entry content') : content = content' := by
  obtain ⟨-, ha | ⟨hr, ha⟩⟩ := h
  · obtain ⟨-, ha' | ⟨hr', -⟩⟩ := h'
    · exact ha.unique ha'
    · exact absurd hr' ha.not_rejected
  · obtain ⟨-, ha' | ⟨-, ha'⟩⟩ := h'
    · exact absurd hr ha'.not_rejected
    · exact ha.unique ha'

/-- How a run of the bytecode compiler on a source can end. -/
inductive Ends (b : Behaviour) (fxc : Bytecode.Fxc) (source entry profile : String) : Except Failure Bytes → Prop
  | accepted {content} : Accepted b fxc source entry profile content → Ends b fxc source entry profile (.ok content)
  | rejected {words} : Rejected b fxc source entry profile →
      Ends b fxc source entry profile (.error (.reported { cause := .bytecode profile words }))
  | failed {f} : (∀ profile' words context, f ≠ .reported ⟨.bytecode profile' words, context⟩) →
      Ends b fxc source entry profile (.error f)

variable {h : Host} {c : CrossCompiler} {fxc : Bytecode.Fxc} {b : Behaviour}
variable {t0 t : Tree} {s : Location} {p : Path} {files : Files} {w w' : World} {n : String}

/-! ## The cross compiler -/

theorem stageOf_ok {path : String} {stage : Stage} (hst : stageOf path w = (.ok stage, w')) :
    Stage.ofPath? (.ofText path) = some stage ∧ w' = w := by
  unfold stageOf at hst
  cases hp : Stage.ofPath? (.ofText path) with
  | none =>
    simp only [hp] at hst
    cases hst
  | some stage' =>
    simp only [hp] at hst
    cases hst
    exact ⟨rfl, rfl⟩

theorem Follows.makes (hb : Follows h c fxc b) {n : Nat} {path : String} {source : Bytes}
    (hsource : t.readFile h.here path = .ok source) (stage : Stage) (target : Target) :
    c.Makes h path stage target n t (b.cross (c.command path stage target) source) := by
  unfold Makes
  split
  · next e hx => exact hb.cross_error _ _ _ _ _ _ _ hsource hx
  · next r text description hx => exact fun t1 t2 => hb.cross_ok _ _ _ _ _ _ _ _ _ _ _ hsource hx

/-- A translation is what the cross compiler makes of its input, and no output is left. -/
theorem convert_ok (hs : Scratch t0 h.here p s) (hf : Holds t0 s files w.tree) (hb : Follows h c fxc b)
    (hp : c.scratch = p) {path text rendered : String} {description : Bytes} {target : Target}
    (hsource : w.tree.readFile h.here path = .ok (Text.toUtf8 rendered))
    (hclean : ∀ stage, files (sourceName stage) = none ∧ files (reflectionName stage) = none)
    (hc : c.convert h path target w = (.ok (text, description), w')) :
    Holds t0 s files w'.tree ∧ ∃ stage, Stage.ofPath? (.ofText path) = some stage ∧
      Translated b c path stage rendered target text description := by
  subst hp
  cases hstage : Stage.ofPath? (.ofText path) with
  | none =>
    rw [convert_unknown hstage] at hc
    cases hc
  | some stage =>
    obtain ⟨w1, hrun, -, ha⟩ := convert_run hs.folder (fun _ => ⟨hs.free _, hs.free _⟩) (hs.holds_iff_adds.mp hf)
      hstage (hb.makes hsource stage target)
    rw [hrun] at hc
    obtain ⟨hanswer, rfl⟩ := Prod.mk.injEq .. ▸ hc
    obtain ⟨r, x, y, bytes, houtcome, hr, hbytes, hdecode, hdescription⟩ := answer_eq_ok.mp hanswer
    obtain ⟨hsourceName, hreflectionName⟩ := hclean stage
    rw [hsourceName, Option.or_none] at hbytes
    rw [hreflectionName, Option.or_none] at hdescription
    subst hbytes hdescription
    rw [houtcome, leaves, if_pos hr, taken_written, taken_of_none hsourceName hreflectionName] at ha
    exact ⟨hs.holds_iff_adds.mpr ha, stage, rfl, r, bytes, houtcome, hr, hdecode⟩

/-! ## The bytecode compiler -/

/-- What the runs of the bytecode compiler do. -/
def Behaviour.bytecodeRuns (b : Behaviour) (here : Location) (fxc : Bytecode.Fxc) : Bytecode.Runs :=
  fun _ argv t => (t.readFile here fxc.sourcePath).mapError .refused >>= b.bytecode argv

theorem bytecodeRuns_of_readFile {here : Location} {source : Bytes}
    (hsource : t.readFile here fxc.sourcePath = .ok source) (n : Nat) (argv : List String) :
    b.bytecodeRuns here fxc n argv t = b.bytecode argv source := by
  unfold Behaviour.bytecodeRuns
  rw [hsource]
  rfl

theorem Follows.does (hb : Follows h c fxc b) : fxc.Does h (b.bytecodeRuns h.here fxc) where
  refused n entry profile t source e hsource hx := by
    rw [bytecodeRuns_of_readFile hsource] at hx
    exact hb.bytecode_error _ _ _ _ _ _ hsource hx
  done n entry profile t source r content t1 hsource hx := by
    rw [bytecodeRuns_of_readFile hsource] at hx
    exact hb.bytecode_ok _ _ _ _ _ _ _ _ hsource hx

theorem answer_ends (b : Behaviour) (fxc : Bytecode.Fxc) (source entry profile : String) :
    Ends b fxc source entry profile
      (fxc.answer profile (b.bytecode (fxc.command entry profile) (Text.toUtf8 source))) := by
  rcases hx : b.bytecode (fxc.command entry profile) (Text.toUtf8 source) with (e | _) | ⟨r, content⟩
  · exact .failed nofun
  · exact .failed nofun
  by_cases hr : Rejected b fxc source entry profile
  · have hrejects := hr
    unfold Rejected at hrejects
    rw [hx] at hrejects
    obtain ⟨words, hanswer⟩ := Bytecode.answer_rejected fxc profile hrejects
    rw [hanswer]
    exact .rejected hr
  · unfold Rejected at hr
    rw [hx] at hr
    cases hanswer : fxc.answer profile (.ok (r, content)) with
    | ok bytes =>
      obtain ⟨hsucceeds, rfl⟩ := Bytecode.answer_eq_ok.mp hanswer
      exact .accepted ⟨r, hx, hsucceeds⟩
    | error f =>
      exact .failed fun profile' words context hf => Bytecode.answer_not_rejected fxc profile hr profile' words context
        (hf ▸ hanswer)

section
variable (hs : Scratch t0 h.here p s) (hf : Holds t0 s files w.tree) (hb : Follows h c fxc b) (hp : fxc.scratch = p)
  (hclean : files "shader.hlsl" = none) (hclean' : files "shader.cso" = none)
include hs hf hb hp hclean hclean'

/-- Once its source is written, a run answers for what the tool makes of it, and its two files are gone. -/
theorem compile_answers {source : String} {t1 : Tree} (entry profile : String)
    (hsave : save h fxc.sourcePath source w = (.ok (.ok ()), { w with tree := t1 })) :
    ∃ w', fxc.compile h source entry profile w =
        (fxc.answer profile (b.bytecode (fxc.command entry profile) (Text.toUtf8 source)), w') ∧
      Holds t0 s files w'.tree := by
  subst hp
  have ha := hs.holds_iff_adds.mp hf
  obtain ⟨t, ht, hf1⟩ := hs.writeFile hf isName_hlsl (Text.toUtf8 source)
  obtain ⟨-, -, t', hwrite, heq⟩ := save_ok hsave
  obtain rfl : t1 = t' := congrArg World.tree heq
  cases ht.symm.trans hwrite
  have hread : t1.readFile h.here fxc.sourcePath = .ok (Text.toUtf8 source) :=
    (hs.readFile_eq_ok hf1 isName_hlsl).mpr (Function.update_self ..)
  have hfree {n : String} (hn : files n = none) : w.tree.get? (s ++ [n]) = none := by
    rw [hf.files, hn]
    rfl
  obtain ⟨w1, -, hrun, -, hsame⟩ := Bytecode.compile_run entry profile hsave (hs.folder.adds ha) (hfree hclean)
    (hfree hclean') hb.does
  rw [bytecodeRuns_of_readFile hread] at hrun
  exact ⟨w1, hrun, hf.same hsame⟩

/-- However it ends: the source is not written, or it is. -/
theorem compile_ends {source entry profile : String} {result : Except Failure Bytes}
    (hc : fxc.compile h source entry profile w = (result, w')) :
    Ends b fxc source entry profile result ∧
      ((∃ f, result = .error f ∧ ∀ profile' words context, f ≠ .reported ⟨.bytecode profile' words, context⟩) ∨
        Text.Writable source ∧ Holds t0 s files w'.tree) := by
  rcases hsave : save h fxc.sourcePath source w with ⟨written, w1⟩
  have hsaves := saves_save h fxc.sourcePath source w
  rw [hsave] at hsaves
  have hnot {f : Failure} (hrun : fxc.compile h source entry profile w = (.error f, w1))
      (hf : ∀ profile' words context, f ≠ .reported ⟨.bytecode profile' words, context⟩) :
      Ends b fxc source entry profile result ∧
        ((∃ f, result = .error f ∧ ∀ profile' words context, f ≠ .reported ⟨.bytecode profile' words, context⟩) ∨
          Text.Writable source ∧ Holds t0 s files w'.tree) := by
    cases hrun.symm.trans hc
    exact ⟨.failed hf, .inl ⟨f, rfl, hf⟩⟩
  cases hsaves with
  | crashed => exact hnot (bind_run_error hsave) nofun
  | refused => exact hnot (bind_run_ok hsave) nofun
  | cut => exact hnot (bind_run_ok hsave) nofun
  | done hwritable =>
    obtain ⟨w2, hrun, hf2⟩ := compile_answers hs hf hb hp hclean hclean' entry profile hsave
    cases hrun.symm.trans hc
    exact ⟨answer_ends b fxc source entry profile, .inr ⟨hwritable, hf2⟩⟩

/-- Bytecode is that of the source, for one of the two profiles. -/
theorem compile_ok {source entry : String} {stage : Stage} {content : Bytes}
    (hc : Bytecode.compile (fxc.compile h) source stage entry w = (.ok content, w')) :
    Compiled b fxc source stage entry content ∧ Holds t0 s files w'.tree := by
  have hattempts := Bytecode.attempts_compile (fxc.compile h) source stage entry w
  rw [hc] at hattempts
  cases hattempts with
  | first hfirst =>
    obtain ⟨hends, ⟨f, hfailed, -⟩ | ⟨hwritable, hf1⟩⟩ := compile_ends hs hf hb hp hclean hclean' hfirst
    · cases hfailed
    · cases hends with
      | accepted ha => exact ⟨⟨hwritable, .inl ha⟩, hf1⟩
  | @second _ _ _ w1 entries _ _ _ hfirst hsecond =>
    obtain ⟨hends, ⟨f, hfailed, hnot⟩ | ⟨hwritable, hf1⟩⟩ := compile_ends hs hf hb hp hclean hclean' hfirst
    · cases hfailed
      exact absurd rfl (hnot _ _ _)
    obtain ⟨hends', ⟨f, hfailed, -⟩ | ⟨-, hf2⟩⟩ :=
      compile_ends hs (w := { w1 with log := w1.log ++ entries }) hf1 hb hp hclean hclean' hsecond
    · cases hfailed
    cases hends with
    | rejected hrejected =>
      cases hends' with
      | accepted ha => exact ⟨⟨hwritable, .inr ⟨hrejected, ha⟩⟩, hf2⟩
    | failed hnot => exact absurd rfl (hnot _ _ _)

end

end ShaderBundle
