import ShaderBundle.Proofs.Action.Laws
import ShaderBundle.Proofs.Files.Operations

/-!
# Writing, moving and clearing away

All that can become of a text that is to be written, of a file that is to be moved and of something that is to be
cleared away, with what is left by a disk that cuts it short.

* `Saves`, `saves_save`: a text that is written.
* `Moves`, `moves_move`: a file that is moved, by a rename or by copying it.
* `Stuck`, `clear_cases`: what is cleared away.
-/

namespace ShaderBundle

/-- The system takes the path, and the disk takes all that is written there. -/
structure Host.Takes (h : Host) (path : String) : Prop where
  plain : isPlain path = true
  whole : ∀ n content, h.disk n path content = none

namespace Action

variable {h : Host} {path text source name target : String} {w w' : World}

/-! ## Writing -/

/-- What a text that is to be written crashes with. -/
inductive Unsaved (path text : String) : Crash → Prop
  | surrogate {fault} (he : Text.encode text = .error fault) : Unsaved path text (.unencodable fault)
  | unfit {c} (hp : unfit? path = some c) : Unsaved path text c

/-- What becomes of a text that is to be written. -/
inductive Saves (h : Host) (path text : String) (w : World) : Except Failure (Except WriteFault Unit) × World → Prop
  | crashed {c} (hc : Unsaved path text c) : Saves h path text w (.error (.crashed c), w)
  | refused {e} (he : Text.Writable text) (hp : isPlain path = true)
      (hw : w.tree.writeFile h.here path (Text.toUtf8 text) = .error e) :
      Saves h path text w (.ok (.error (.refused e)), w)
  | cut {n fault t} (he : Text.Writable text) (hp : isPlain path = true)
      (hd : h.disk w.runs.length path (Text.toUtf8 text) = some (n, fault))
      (hw : w.tree.writeFile h.here path ((Text.toUtf8 text).take n) = .ok t) :
      Saves h path text w (.ok (.error (.cut fault)), { w with tree := t })
  | done {t} (he : Text.Writable text) (hp : isPlain path = true)
      (hd : h.disk w.runs.length path (Text.toUtf8 text) = none)
      (hw : w.tree.writeFile h.here path (Text.toUtf8 text) = .ok t) :
      Saves h path text w (.ok (.ok ()), { w with tree := t })

theorem write_run (h : Host) (path : String) (content : Bytes) (w : World) :
    write h path content w =
      match unfit? path with
      | some c => (.error (.crashed c), w)
      | none =>
        match w.tree.writeFile h.here path (part h w.runs.length path content).1,
            (part h w.runs.length path content).2 with
        | .error e, _ => (.ok (.error (.refused e)), w)
        | .ok t, none => (.ok (.ok ()), { w with tree := t })
        | .ok t, some fault => (.ok (.error (.cut fault)), { w with tree := t }) := by
  unfold write
  cases unfit? path with
  | some c => rfl
  | none =>
    have hget : (get : Action World) w = (.ok w, w) := rfl
    dsimp only
    rw [bind_run_ok hget]
    rcases part h w.runs.length path content with ⟨written, cut⟩
    dsimp only
    rw [bind_run, attempt_run]
    cases w.tree.writeFile h.here path written with
    | error e => rfl
    | ok t => cases cut <;> rfl

theorem save_unencodable {fault : Text.EncodeFault} (he : Text.encode text = .error fault) :
    save h path text w = (.error (.crashed (.unencodable fault)), w) := by
  unfold save
  rw [he]
  rfl

theorem save_writable (he : Text.Writable text) : save h path text w = write h path (Text.toUtf8 text) w := by
  unfold save
  rw [Text.encode_eq_ok.mpr ⟨he, rfl⟩]

theorem save_unfit {c : Crash} (he : Text.Writable text) (hp : unfit? path = some c) :
    save h path text w = (.error (.crashed c), w) := by
  rw [save_writable he, write_run, hp]

section
variable {t : Tree} (he : Text.Writable text) (hp : isPlain path = true)
include he hp

theorem save_refused {e : FileError} (hw : w.tree.writeFile h.here path (Text.toUtf8 text) = .error e) :
    save h path text w = (.ok (.error (.refused e)), w) := by
  rw [save_writable he, write_run, unfit?_eq_none.mpr hp]
  dsimp only
  rw [Tree.writeFile_eq_error hw]

theorem save_cut {n : Nat} {fault : Fault} (hd : h.disk w.runs.length path (Text.toUtf8 text) = some (n, fault))
    (hw : w.tree.writeFile h.here path ((Text.toUtf8 text).take n) = .ok t) :
    save h path text w = (.ok (.error (.cut fault)), { w with tree := t }) := by
  rw [save_writable he, write_run, unfit?_eq_none.mpr hp]
  unfold part
  rw [hd]
  dsimp only
  rw [hw]

/-- Where the disk takes all of a text, it is written. -/
theorem save_run (hd : h.disk w.runs.length path (Text.toUtf8 text) = none)
    (hw : w.tree.writeFile h.here path (Text.toUtf8 text) = .ok t) :
    save h path text w = (.ok (.ok ()), { w with tree := t }) := by
  rw [save_writable he, write_run, unfit?_eq_none.mpr hp]
  unfold part
  rw [hd]
  dsimp only
  rw [hw]

end

theorem saves_save (h : Host) (path text : String) (w : World) : Saves h path text w (save h path text w) := by
  cases he : Text.encode text with
  | error fault =>
    rw [save_unencodable he]
    exact .crashed (.surrogate he)
  | ok bytes =>
    obtain ⟨hwritable, rfl⟩ := Text.encode_eq_ok.mp he
    cases hunfit : unfit? path with
    | some c =>
      rw [save_unfit hwritable hunfit]
      exact .crashed (.unfit hunfit)
    | none =>
      have hp : isPlain path = true := unfit?_eq_none.mp hunfit
      cases hw : w.tree.writeFile h.here path (Text.toUtf8 text) with
      | error e =>
        rw [save_refused hwritable hp hw]
        exact .refused hwritable hp hw
      | ok t =>
        cases hd : h.disk w.runs.length path (Text.toUtf8 text) with
        | none =>
          rw [save_run hwritable hp hd hw]
          exact .done hwritable hp hd hw
        | some found =>
          obtain ⟨n, fault⟩ := found
          cases hw' : w.tree.writeFile h.here path ((Text.toUtf8 text).take n) with
          | error e => cases hw.symm.trans (Tree.writeFile_eq_error hw' _)
          | ok t' =>
            rw [save_cut hwritable hp hd hw']
            exact .cut hwritable hp hd hw'

theorem save_ok {u : Unit} (hs : save h path text w = (.ok (.ok u), w')) :
    Text.Writable text ∧ isPlain path = true ∧ ∃ t, w.tree.writeFile h.here path (Text.toUtf8 text) = .ok t ∧
      w' = { w with tree := t } := by
  have hsaves := saves_save h path text w
  rw [hs] at hsaves
  cases hsaves with
  | done he hp hd hw => exact ⟨he, hp, _, hw, rfl⟩

/-- What it crashes with is said by the text and the path alone. -/
theorem save_error {f : Failure} (hs : save h path text w = (.error f, w')) :
    w' = w ∧ ∃ c, f = .crashed c ∧ Unsaved path text c := by
  have hsaves := saves_save h path text w
  rw [hs] at hsaves
  cases hsaves with
  | crashed hc => exact ⟨rfl, _, rfl, hc⟩

/-- Only the file that is to be written is changed. -/
theorem Keeps.save {I : Tree → Prop}
    (hI : ∀ t t' content, I t → t.writeFile h.here path content = .ok t' → I t') (text : String) :
    Keeps I (Action.save h path text) := by
  intro w hw
  have hsaves := saves_save h path text w
  generalize Action.save h path text w = out at hsaves ⊢
  cases hsaves with
  | crashed => exact hw
  | refused => exact hw
  | cut _ _ _ ho => exact hI _ _ _ hw ho
  | done _ _ _ ho => exact hI _ _ _ hw ho

/-! ## Moving -/

/-- What becomes of a file that is to be moved. -/
inductive Moves (h : Host) (source name target : String) (w : World) :
    Except Failure (Except Tree.MoveFault Unit) × World → Prop
  | crashed {c} (hp : unfit? target = some c) : Moves h source name target w (.error (.crashed c), w)
  | refused {fault} (hm : w.tree.moveFile h.here source name target = .error fault) :
      Moves h source name target w (.ok (.error fault), w)
  | cut {content n fault t moved} (ha : h.apart = true) (hr : w.tree.readFile h.here source = .ok content)
      (hm : w.tree.moveFile h.here source name target = .ok moved)
      (hd : h.disk w.runs.length (w.tree.destination h.here name target) content = some (n, fault))
      (hw : w.tree.writeFile h.here (w.tree.destination h.here name target) (content.take n) = .ok t) :
      Moves h source name target w
        (.ok (.error (.cut fault source (w.tree.destination h.here name target))), { w with tree := t })
  | done {t} (hp : isPlain target = true) (hm : w.tree.moveFile h.here source name target = .ok t) :
      Moves h source name target w (.ok (.ok ()), { w with tree := t })

theorem copied?_eq_some {n : Nat} {t : Tree} {place : String} {written : Bytes} {fault : Fault}
    (hc : copied? h n t source place = some (written, fault)) : h.apart = true ∧ ∃ content m,
      t.readFile h.here source = .ok content ∧ h.disk n place content = some (m, fault) ∧
        written = content.take m := by
  unfold copied? at hc
  split at hc
  · next content ha hr =>
    unfold part at hc
    cases hd : h.disk n place content with
    | none =>
      rw [hd] at hc
      cases hc
    | some found =>
      rw [hd] at hc
      cases hc
      exact ⟨ha, content, found.1, hr, hd, rfl⟩
  · cases hc

/-- A part of a file can be written where the file can be moved to. -/
theorem writeFile_of_moveFile {t t' : Tree} {here : Location} (hm : t.moveFile here source name target = .ok t')
    (content : Bytes) : ∃ t', t.writeFile here (t.destination here name target) content = .ok t' := by
  obtain ⟨l, e, k, -, -, hk, hfree, -⟩ := Tree.moveFile_eq_ok hm
  exact ⟨_, Tree.writeFile_eq_ok.mpr ⟨k, hk, Tree.not_directory_of_free hk hfree, rfl⟩⟩

theorem moves_move (h : Host) (source name target : String) (w : World) :
    Moves h source name target w (move h source name target w) := by
  have hget : (get : Action World) w = (.ok w, w) := rfl
  unfold move
  cases hunfit : unfit? target with
  | some c => exact .crashed hunfit
  | none =>
    dsimp only
    rw [bind_run_ok hget]
    cases hm : w.tree.moveFile h.here source name target with
    | error fault => exact .refused hm
    | ok t =>
      cases hc : copied? h w.runs.length w.tree source (w.tree.destination h.here name target) with
      | none => exact .done (unfit?_eq_none.mp hunfit) hm
      | some found =>
        obtain ⟨written, fault⟩ := found
        obtain ⟨ha, content, n, hr, hd, rfl⟩ := copied?_eq_some hc
        obtain ⟨t', hw⟩ := writeFile_of_moveFile hm (content.take n)
        dsimp only
        rw [bind_run, attempt_run, hw]
        exact .cut ha hr hm hd hw

/-- Where the disk takes all that is written, a file is moved. -/
theorem move_run {t : Tree} (hp : isPlain target = true) (hd : ∀ n path content, h.disk n path content = none)
    (hm : w.tree.moveFile h.here source name target = .ok t) :
    move h source name target w = (.ok (.ok ()), { w with tree := t }) := by
  have hmoves := moves_move h source name target w
  generalize move h source name target w = out at hmoves ⊢
  cases hmoves with
  | crashed hunfit => cases (unfit?_eq_none.mpr hp).symm.trans hunfit
  | refused hm' => cases hm.symm.trans hm'
  | cut _ _ _ hd' => cases (hd _ _ _).symm.trans hd'
  | done _ hm' =>
    cases hm.symm.trans hm'
    rfl

/-! ## Clearing away -/

/-- Something is there that cannot be taken away like this. -/
def Stuck (operation : Tree → Except FileError Tree) (t : Tree) (e : FileError) : Prop :=
  operation t = .error e ∧ e.fault ≠ .missing

variable {operation : Tree → Except FileError Tree} {e : FileError}

theorem clear_missing (ho : operation w.tree = .error e)
    (hmissing : e.fault = .missing) : clear operation w = (.ok (), w) := by
  unfold clear
  rw [bind_run, attempt_run, ho]
  dsimp only
  rw [if_pos hmissing]
  rfl

theorem clear_stuck (hs : Stuck operation w.tree e) :
    clear operation w = (.error (.crashed (.files e)), w) := by
  unfold clear
  rw [bind_run, attempt_run, hs.1]
  dsimp only
  rw [if_neg hs.2]
  rfl

theorem clear_run {t : Tree} (ho : operation w.tree = .ok t) :
    clear operation w = (.ok (), { w with tree := t }) := by
  unfold clear
  rw [bind_run, attempt_run, ho]
  rfl

theorem clear_cases (operation : Tree → Except FileError Tree) (w : World) :
    (∃ t, operation w.tree = .ok t ∧ clear operation w = (.ok (), { w with tree := t })) ∨
    (∃ e, operation w.tree = .error e ∧ e.fault = .missing ∧ clear operation w = (.ok (), w)) ∨
    ∃ e, Stuck operation w.tree e ∧ clear operation w = (.error (.crashed (.files e)), w) := by
  cases ho : operation w.tree with
  | ok t => exact .inl ⟨t, rfl, clear_run ho⟩
  | error e =>
    right
    by_cases hmissing : e.fault = .missing
    · exact .inl ⟨e, rfl, hmissing, clear_missing ho hmissing⟩
    · exact .inr ⟨e, ⟨ho, hmissing⟩, clear_stuck ⟨ho, hmissing⟩⟩

theorem clear_ok {u : Unit} (hc : clear operation w = (.ok u, w')) :
    (∃ t, operation w.tree = .ok t ∧ w' = { w with tree := t }) ∨
      ∃ e, operation w.tree = .error e ∧ e.fault = .missing ∧ w' = w := by
  rcases clear_cases operation w with ⟨t, ho, hrun⟩ | ⟨e, ho, hfault, hrun⟩ | ⟨e, -, hrun⟩
  · cases hrun.symm.trans hc
    exact .inl ⟨t, ho, rfl⟩
  · cases hrun.symm.trans hc
    exact .inr ⟨e, ho, hfault, rfl⟩
  · cases hrun.symm.trans hc

theorem clear_error {f : Failure}
    (hc : clear operation w = (.error f, w')) : w' = w ∧ ∃ e, f = .crashed (.files e) ∧ Stuck operation w.tree e := by
  rcases clear_cases operation w with ⟨t, -, hrun⟩ | ⟨e, -, -, hrun⟩ | ⟨e, hstuck, hrun⟩
  · cases hrun.symm.trans hc
  · cases hrun.symm.trans hc
  · cases hrun.symm.trans hc
    exact ⟨rfl, e, rfl, hstuck⟩

theorem Keeps.clear {I : Tree → Prop}
    (hI : ∀ t t', I t → operation t = .ok t' → I t') : Keeps I (Action.clear operation) := by
  refine (Keeps.attempt hI).bind fun r => ?_
  cases r with
  | ok u => exact Keeps.pure _
  | error e =>
    dsimp only
    split
    · exact Keeps.pure _
    · exact Keeps.crash _

end Action

end ShaderBundle
