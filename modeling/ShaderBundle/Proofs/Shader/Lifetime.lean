import ShaderBundle.Proofs.Generate.Atomic
import ShaderBundle.Proofs.Generate.Steps

/-!
# How long a rendered shader lasts

The rendering of a shader is a file for as long as it is worked on. Whatever the work does and however it ends, the
file is gone afterwards, and nothing else has been changed by putting it there and taking it away. It is not taken away
where the work has not begun, as the disk has cut it short.

* `Tree.writeFile_holds`, `Tree.removeFile_gone`: a file that is written, and one that is removed.
* `prepare_crashed`, `prepare_unwritten`, `prepare_run`: what is done before the work.
* `removeScratch_gone`: what is done after it.
* `withRendered_lifetime`: the whole of it, for any work.
-/

namespace ShaderBundle

open ShaderBundle.Action

/-! ## Files that come and go -/

namespace Tree

variable {t t' : Tree} {here l : Location} {path : String} {content : Bytes} {fault : Fault}

/-- A path is either missing on its way, or a file is in its way. -/
theorem walk_error : ∀ {names : List String} {l : Location}, t.walk l names = .error fault →
    fault = .missing ∨ fault = .notDirectory
  | [], _, h => by cases h
  | name :: names, l, h => by
    unfold walk step needDirectory at h
    cases hl : t.get? l with
    | none =>
      rw [hl] at h
      cases h
      exact .inl rfl
    | some e =>
      rw [hl] at h
      cases e with
      | file c x =>
        cases h
        exact .inr rfl
      | directory => exact walk_error h

theorem locate_error (h : t.locate here path = .error fault) : fault = .missing ∨ fault = .notDirectory := by
  unfold locate at h
  split at h
  · cases h
    exact .inl rfl
  · exact walk_error h
  · exact walk_error h

/-- A written file holds what has been written, and nothing else has changed. -/
theorem writeFile_holds (hw : t.writeFile here path content = .ok t') : t'.readFile here path = .ok content ∧
    ∀ m, t.locate here path ≠ .ok m → t'.get? m = t.get? m := by
  obtain ⟨l, hl, hdir, rfl⟩ := writeFile_eq_ok.mp hw
  have hne := ne_nil_of_not_directory hdir
  have hdirectories : ∀ m, t.get? m = some .directory → (t.written l content).get? m = some .directory := by
    intro m hm
    have hml : m ≠ l := fun h => hdir (h ▸ hm)
    rw [written, get?_put hne, if_neg hml, hm]
  constructor
  · obtain ⟨executable, hthere⟩ : ∃ executable, (t.written l content).get? l = some (.file content executable) :=
      ⟨_, by rw [written, get?_put hne, if_pos rfl]⟩
    exact readFile_eq_ok.mpr ⟨l, executable, locate_mono hdirectories hl, hthere⟩
  · intro m hm
    have hml : m ≠ l := fun h => hm (h ▸ hl)
    rw [written, get?_put hne, if_neg hml]

/-- A removed file is missing, and nothing else has changed. -/
theorem removeFile_gone (hr : t.removeFile here path = .ok t') : t'.find here path = .error .missing ∧
    ∀ m, t.locate here path ≠ .ok m → t'.get? m = t.get? m := by
  obtain ⟨l, c, x, hl, hfile, rfl⟩ := removeFile_eq_ok.mp hr
  have hdir : t.get? l ≠ some .directory := by simp [hfile]
  have hne := ne_nil_of_not_directory hdir
  have hdirectories : ∀ m, t.get? m = some .directory → (t.erase l).get? m = some .directory := by
    intro m hm
    have hml : m ≠ l := fun h => hdir (h ▸ hm)
    rw [get?_erase hne, if_neg hml, hm]
  constructor
  · rw [find, locate_mono hdirectories hl]
    dsimp only [bind, Except.bind]
    rw [get?_erase hne, if_pos rfl]
  · intro m hm
    have hml : m ≠ l := fun h => hm (h ▸ hl)
    rw [get?_erase hne, if_neg hml]

/-- What is no directory, and is not behind a file, can be removed or is missing. -/
theorem removeFile_or_missing (hdir : t.isDirectory here path = false) (hway : t.locate here path ≠ .error .notDirectory) :
    (∃ t', t.removeFile here path = .ok t') ∨ t.find here path = .error .missing := by
  cases hl : t.locate here path with
  | error fault =>
    right
    rcases locate_error hl with rfl | rfl
    · rw [find, hl]
      rfl
    · exact absurd hl hway
  | ok l =>
    cases he : t.get? l with
    | none =>
      right
      rw [find, hl]
      dsimp only [bind, Except.bind]
      rw [he]
    | some e =>
      cases e with
      | file c x => exact .inl ⟨_, removeFile_eq_ok.mpr ⟨l, c, x, hl, he, rfl⟩⟩
      | directory =>
        rw [isDirectory_eq_true.mpr ⟨l, hl, he⟩] at hdir
        cases hdir

theorem removeFile_of_find_error (hf : t.find here path = .error fault) :
    t.removeFile here path = .error ⟨fault, path⟩ := by
  rw [removeFile, hf]
  rfl

theorem removeFile_directory (hd : t.isDirectory here path = true) :
    t.removeFile here path = .error ⟨.isDirectory, path⟩ := by
  obtain ⟨l, hl, he⟩ := isDirectory_eq_true.mp hd
  rw [removeFile, find_eq_ok.mpr ⟨hl, he⟩]
  rfl

end Tree

namespace Shader

variable {h : Host} {path : String} {w : World}

/-! ## After the work -/

/-- A file that can be removed is, one that is missing already is no failure. -/
theorem removeScratch_gone (hdir : w.tree.isDirectory h.here path = false)
    (hway : w.tree.locate h.here path ≠ .error .notDirectory) :
    ∃ t, removeScratch h path w = (.ok (), { w with tree := t }) ∧ t.find h.here path = .error .missing ∧
      ∀ m, w.tree.locate h.here path ≠ .ok m → t.get? m = w.tree.get? m := by
  rcases Tree.removeFile_or_missing hdir hway with ⟨t, ht⟩ | hmissing
  · exact ⟨t, clear_run ht, Tree.removeFile_gone ht⟩
  · exact ⟨w.tree, clear_missing (Tree.removeFile_of_find_error hmissing) rfl, hmissing, fun _ _ => rfl⟩

/-! ## Before the work -/

section
variable {args : VariantArgs} {scratch : Path} {text : String} {w' : World}

/-- Rendering changes nothing. -/
theorem render_of_result {r : Except Failure String} (hr : (render h (.ofText path) args w).1 = r) :
    render h (.ofText path) args w = (r, w) := by
  rw [render_run] at hr ⊢
  dsimp only at hr
  rw [hr]

theorem prepare_unrendered {f : Failure} (hr : (render h (.ofText path) args w).1 = .error f) :
    prepare h path args scratch w = (.error f, w) := by
  unfold prepare
  rw [bind_run_error (render_of_result hr)]

variable (hr : (render h (.ofText path) args w).1 = .ok text)
include hr

theorem prepare_crashed {f : Failure} (hs : save h (scratchFile scratch path).text text w = (.error f, w')) :
    prepare h path args scratch w = (.error f, w') := by
  unfold prepare
  rw [bind_run_ok (render_of_result hr), bind_run_error hs]

/-- What is reported of a rendering that is not written as a whole. -/
def unwritten (file : Path) (fault : WriteFault) : Failure :=
  .reported { cause := .file (.cannotWrite file.text fault.message) (some file.text) }

theorem prepare_unwritten {fault : WriteFault}
    (hs : save h (scratchFile scratch path).text text w = (.ok (.error fault), w')) :
    prepare h path args scratch w = (.error (unwritten (scratchFile scratch path) fault), w') := by
  unfold prepare
  rw [bind_run_ok (render_of_result hr), bind_run_ok hs]
  rfl

theorem prepare_run (hs : save h (scratchFile scratch path).text text w = (.ok (.ok ()), w')) :
    prepare h path args scratch w = (.ok (scratchFile scratch path),
      { w' with log := w'.log ++ [(.debug, s!"Rendered {path} to {(scratchFile scratch path).text}")] }) := by
  unfold prepare
  rw [bind_run_ok (render_of_result hr), bind_run_ok hs]
  rfl

end

/-! ## The work -/

/-- The rendering of a shader is a file for as long as it is worked on, whatever the work is and however it ends. What has
been put in its place meanwhile and cannot be removed as a file is a crash. The work is not begun where the shader cannot
be rendered, the rendering has a surrogate, or the file cannot be written; nothing changes then, but that a disk which
cuts the file short leaves the part of it. -/
theorem withRendered_lifetime {α : Type} (h : Host) (path : String) (args : VariantArgs) (scratch : Path)
    (body : Path → Action α) (w : World) :
    let file := scratchFile scratch path
    (∀ f, (render h (.ofText path) args w).1 = .error f → withRendered h path args scratch body w = (.error f, w)) ∧
    ∀ text, (render h (.ofText path) args w).1 = .ok text →
      (∀ fault, Text.encode text = .error fault →
        withRendered h path args scratch body w = (.error (.crashed (.unencodable fault)), w)) ∧
      (Text.Writable text → ∀ c, unfit? file.text = some c →
        withRendered h path args scratch body w = (.error (.crashed c), w)) ∧
      (Text.Writable text → isPlain file.text = true →
        (∀ e, w.tree.writeFile h.here file.text (Text.toUtf8 text) = .error e →
          withRendered h path args scratch body w = (.error (unwritten file (.refused e)), w)) ∧
        (∀ n fault t, h.disk w.runs.length file.text (Text.toUtf8 text) = some (n, fault) →
          w.tree.writeFile h.here file.text ((Text.toUtf8 text).take n) = .ok t →
          withRendered h path args scratch body w = (.error (unwritten file (.cut fault)), { w with tree := t }) ∧
          t.readFile h.here file.text = .ok ((Text.toUtf8 text).take n) ∧
          ∀ m, w.tree.locate h.here file.text ≠ .ok m → t.get? m = w.tree.get? m) ∧
        ∀ t, h.disk w.runs.length file.text (Text.toUtf8 text) = none →
          w.tree.writeFile h.here file.text (Text.toUtf8 text) = .ok t →
          t.readFile h.here file.text = .ok (Text.toUtf8 text) ∧
          (∀ m, w.tree.locate h.here file.text ≠ .ok m → t.get? m = w.tree.get? m) ∧
          ∀ r w1,
            body file { w with tree := t, log := w.log ++ [(.debug, s!"Rendered {path} to {file.text}")] } = (r, w1) →
            (w1.tree.isDirectory h.here file.text = false → w1.tree.locate h.here file.text ≠ .error .notDirectory →
              ∃ t', withRendered h path args scratch body w = (r, { w1 with tree := t' }) ∧
                t'.find h.here file.text = .error .missing ∧
                ∀ m, w1.tree.locate h.here file.text ≠ .ok m → t'.get? m = w1.tree.get? m) ∧
            -- something else is there that cannot be removed as a file
            (w1.tree.isDirectory h.here file.text = true →
              withRendered h path args scratch body w = (.error (.crashed (.files ⟨.isDirectory, file.text⟩)), w1)) ∧
            (w1.tree.locate h.here file.text = .error .notDirectory →
              withRendered h path args scratch body w =
                (.error (.crashed (.files ⟨.notDirectory, file.text⟩)), w1))) := by
  intro file
  rw [withRendered_eq]
  refine ⟨fun f hr => bind_run_error (prepare_unrendered hr), fun text hr => ⟨fun fault he => ?_, fun he c hp => ?_,
    fun he hp => ⟨fun e hw => ?_, fun n fault t hd hw => ?_, fun t hd hw => ?_⟩⟩⟩
  · exact bind_run_error (prepare_crashed hr (save_unencodable he))
  · exact bind_run_error (prepare_crashed hr (save_unfit he hp))
  · exact bind_run_error (prepare_unwritten hr (save_refused he hp hw))
  · exact ⟨bind_run_error (prepare_unwritten hr (save_cut he hp hd hw)), Tree.writeFile_holds hw⟩
  · obtain ⟨hholds, hothers⟩ := Tree.writeFile_holds hw
    refine ⟨hholds, hothers, fun r w1 hbody => ?_⟩
    have hwork := bind_run_ok (f := fun file => ensure (body file) (removeScratch h file.text))
      (prepare_run hr (save_run he hp hd hw))
    rw [hwork]
    refine ⟨fun hdir hway => ?_, fun hdir => ?_, fun hway => ?_⟩
    · obtain ⟨t', hremoved, hgone, hkept⟩ := removeScratch_gone hdir hway
      exact ⟨t', ensure_run hbody hremoved, hgone, hkept⟩
    · have hfault : Fault.isDirectory ≠ .missing := by decide
      exact ensure_run_error hbody (clear_stuck ⟨Tree.removeFile_directory hdir, hfault⟩)
    · have hfind : w1.tree.find h.here file.text = .error .notDirectory := by
        rw [Tree.find, hway]
        rfl
      have hfault : Fault.notDirectory ≠ .missing := by decide
      exact ensure_run_error hbody (clear_stuck ⟨Tree.removeFile_of_find_error hfind, hfault⟩)

/-! Work that overwrites the rendering, leaves a file of its own, and fails. On a full disk it is not even begun, and an
older file in the place of the rendering is lost. -/

def spoiling (file : Path) : Action Unit := do
  let _ ← attempt (·.writeFile deadHost.here file.text [1])
  let _ ← attempt (·.writeFile deadHost.here "/w/tmp/left" [2])
  Action.fail (.other "tool failed")

def oldTree : Tree := deadTree.put ["w", "tmp", "a.vert"] (.file (Text.toUtf8 "old") false)

/-- What there is once the work has failed. -/
def spoiled : Tree :=
  ((oldTree.put ["w", "tmp", "a.vert"] (.file (Text.toUtf8 "x") false)).put ["w", "tmp", "a.vert"] (.file [1] false)).put
    ["w", "tmp", "left"] (.file [2] false)

def fullHost : Host := { deadHost with disk := fun _ _ _ => some (0, ⟨28, "No space left on device"⟩) }

def blankArgs : VariantArgs := { fetchColorExpr := "", header := "" }

theorem renderIn_old : renderIn oldTree deadHost.here (.ofText "shaders/a.vert") blankArgs = .ok "x" := by
  have hsome : (renderIn oldTree deadHost.here (.ofText "shaders/a.vert") blankArgs).toOption = some "x" := by
    decide +kernel
  cases hr : renderIn oldTree deadHost.here (.ofText "shaders/a.vert") blankArgs with
  | error f =>
    rw [hr] at hsome
    cases hsome
  | ok text =>
    rw [hr] at hsome
    exact congrArg Except.ok (Option.some.inj hsome)

theorem withRendered_spoiling : ∃ w1 w2,
    withRendered deadHost "shaders/a.vert" blankArgs (.ofText "/w/tmp") spoiling { tree := oldTree } =
      (.error (.reported { cause := .other "tool failed" }), w1) ∧
    w1.tree.find deadHost.here "/w/tmp/a.vert" = .error .missing ∧
    w1.tree.get? ["w", "tmp", "left"] = some (.file [2] false) ∧
    withRendered fullHost "shaders/a.vert" blankArgs (.ofText "/w/tmp") spoiling { tree := oldTree } =
      (.error (unwritten (.ofText "/w/tmp/a.vert") (.cut ⟨28, "No space left on device"⟩)), w2) ∧
    w2.tree.readFile deadHost.here "/w/tmp/a.vert" = .ok [] := by
  have hrender (h : Host) (hhere : h.here = deadHost.here) :
      (render h (.ofText "shaders/a.vert") blankArgs { tree := oldTree }).1 = .ok "x" := by
    rw [render_run, hhere]
    exact renderIn_old
  have hfile : scratchFile (.ofText "/w/tmp") "shaders/a.vert" = .ofText "/w/tmp/a.vert" := by decide
  have hwritten (content : Bytes) : oldTree.writeFile deadHost.here "/w/tmp/a.vert" content =
      .ok (oldTree.put ["w", "tmp", "a.vert"] (.file content false)) :=
    Tree.writeFile_eq_ok.mpr ⟨["w", "tmp", "a.vert"], rfl, by decide, rfl⟩
  have hwritable : Text.Writable "x" := by decide
  have hplain : isPlain "/w/tmp/a.vert" = true := by decide
  obtain ⟨-, hwork⟩ := withRendered_lifetime deadHost "shaders/a.vert" blankArgs (.ofText "/w/tmp") spoiling
    { tree := oldTree }
  obtain ⟨-, hfull⟩ := withRendered_lifetime fullHost "shaders/a.vert" blankArgs (.ofText "/w/tmp") spoiling
    { tree := oldTree }
  rw [hfile] at hwork hfull
  obtain ⟨-, -, hwhole⟩ := hwork "x" (hrender deadHost rfl)
  obtain ⟨-, -, hbegun⟩ := hwhole hwritable hplain
  obtain ⟨-, -, hends⟩ := hbegun _ rfl (hwritten (Text.toUtf8 "x"))
  obtain ⟨hgone, -⟩ := hends (.error (.reported { cause := .other "tool failed" }))
    { tree := spoiled, log := [(.debug, "Rendered shaders/a.vert to /w/tmp/a.vert")] } rfl
  have hway : spoiled.locate deadHost.here (Path.ofText "/w/tmp/a.vert").text = .ok ["w", "tmp", "a.vert"] := rfl
  obtain ⟨t', hrun, hmissing, hkept⟩ := hgone (by decide) (hway ▸ nofun)
  obtain ⟨-, -, hpart⟩ := hfull "x" (hrender fullHost rfl)
  obtain ⟨-, hcut, -⟩ := hpart hwritable hplain
  obtain ⟨hrun', hread, -⟩ := hcut 0 ⟨28, "No space left on device"⟩ _ rfl (hwritten [])
  exact ⟨_, _, hrun, hmissing, hkept _ (hway ▸ by decide), hrun', hread⟩

end Shader

end ShaderBundle
