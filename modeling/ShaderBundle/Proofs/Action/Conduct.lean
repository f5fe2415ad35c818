import ShaderBundle.Proofs.Action.Writing

/-!
# Conduct of actions

What can be said of an action whatever the tree is that it is done on, and whatever tools do.

* `Starts argvs a`: these command lines are run, whether `a` fails or not.
* `Tame P a`: the log gets no record of an error, and a failure of `a` has `P`.
-/

namespace ShaderBundle.Action

variable {α β : Type} {a : Action α} {f : α → Action β}

/-! ## Runs of tools -/

/-- These command lines have been run in between. -/
def Ran (argvs : List (List String)) (w w' : World) : Prop := w'.runs = w.runs ++ argvs

theorem Ran.none_iff {w w' : World} : Ran [] w w' ↔ w'.runs = w.runs := by
  rw [Ran, List.append_nil]

theorem Ran.before_none {argvs : List (List String)} {w w1 w2 : World} (h : Ran argvs w w1) (h' : Ran [] w1 w2) :
    Ran argvs w w2 := (Ran.none_iff.mp h').trans h

/-- These command lines are run, however it ends. -/
def Starts (argvs : List (List String)) (a : Action α) : Prop := Leads (Ran argvs) a

namespace Starts

variable {argvs : List (List String)}

theorem pure (x : α) : Starts [] (Pure.pure x : Action α) := fun _ => (List.append_nil _).symm

theorem fail (cause : Cause) : Starts [] (Action.fail cause : Action α) := fun _ => (List.append_nil _).symm

theorem throw (e : Failure) : Starts [] (MonadExcept.throw e : Action α) := fun _ => (List.append_nil _).symm

theorem crash (c : Crash) : Starts [] (Action.crash c : Action α) := fun _ => (List.append_nil _).symm

theorem get : Starts [] (MonadState.get : Action World) := fun _ => (List.append_nil _).symm

theorem ask (question : Tree → α) : Starts [] (Action.ask question) := fun _ => (List.append_nil _).symm

theorem log (level : Level) (text : String) : Starts [] (Action.log level text) := fun _ => (List.append_nil _).symm

/-- What comes after the runs, if it is reached, runs nothing. -/
theorem bind (ha : Starts argvs a) (hf : ∀ x, Starts [] (f x)) : Starts argvs (a >>= f) :=
  Leads.bind ha hf Ran.before_none

theorem logWords (level : Level) (words : String) : Starts [] (Action.logWords level words) := by
  unfold Action.logWords
  split
  · exact pure ()
  · exact log _ _

theorem attempt (operation : Tree → Except FileError Tree) : Starts [] (Action.attempt operation) := by
  intro w
  rw [Ran.none_iff, attempt_run]
  cases operation w.tree <;> rfl

theorem run (h : Host) (argv : List String) : Starts [argv] (Action.run h argv) := by
  intro w
  rcases run_cases h argv w with ⟨e, -, hrun⟩ | ⟨r, t, report, -, -, hrun⟩ | ⟨c, t, -, hrun⟩ <;> (rw [hrun]; rfl)

theorem save (h : Host) (path text : String) : Starts [] (Action.save h path text) := by
  intro w
  have hsaves := saves_save h path text w
  generalize Action.save h path text w = out at hsaves ⊢
  rw [Ran.none_iff]
  cases hsaves <;> rfl

theorem move (h : Host) (source name target : String) : Starts [] (Action.move h source name target) := by
  intro w
  have hmoves := moves_move h source name target w
  generalize Action.move h source name target w = out at hmoves ⊢
  rw [Ran.none_iff]
  cases hmoves <;> rfl

theorem clear (operation : Tree → Except FileError Tree) : Starts [] (Action.clear operation) := by
  intro w
  rw [Ran.none_iff]
  rcases clear_cases operation w with ⟨t, -, hrun⟩ | ⟨e, -, -, hrun⟩ | ⟨e, -, hrun⟩ <;> rw [hrun]

theorem discard (h : Host) (path : String) : Starts [] (Action.discard h path) := by
  unfold Action.discard
  exact (attempt _).bind fun _ => pure ()

theorem ensure {after : Action Unit} (ha : Starts argvs a) (hb : Starts [] after) :
    Starts argvs (Action.ensure a after) := Leads.ensure ha hb Ran.before_none

end Starts

/-! ## Records and failures -/

/-- Records have been logged in between, but none of an error. -/
def Hushed (w w' : World) : Prop := ∃ entries, w'.log = w.log ++ entries ∧ ∀ entry ∈ entries, entry.1 ≠ Level.error

theorem Hushed.of_eq {w w' : World} (h : w'.log = w.log) : Hushed w w' :=
  ⟨[], by rw [h, List.append_nil], fun _ h => absurd h List.not_mem_nil⟩

theorem Hushed.trans {w w1 w2 : World} (h : Hushed w w1) (h' : Hushed w1 w2) : Hushed w w2 := by
  obtain ⟨entries, hlog, hquiet⟩ := h
  obtain ⟨entries', hlog', hquiet'⟩ := h'
  refine ⟨entries ++ entries', ?_, fun entry he => (List.mem_append.mp he).elim (hquiet entry) (hquiet' entry)⟩
  rw [hlog', hlog, List.append_assoc]

/-- No record of an error is logged, and if it fails, the failure has `P`. -/
structure Tame (P : Failure → Prop) (a : Action α) : Prop where
  quiet : Leads Hushed a
  fails : ∀ {w f w'}, a w = (.error f, w') → P f

namespace Tame

variable {P Q : Failure → Prop}

theorem of_silent (hquiet : ∀ w, (a w).2.log = w.log) (hfails : ∀ {w f w'}, a w = (.error f, w') → P f) : Tame P a :=
  ⟨fun w => .of_eq (hquiet w), hfails⟩

theorem mono (ha : Tame P a) (hPQ : ∀ f, P f → Q f) : Tame Q a := ⟨ha.quiet, fun hr => hPQ _ (ha.fails hr)⟩

theorem pure (x : α) : Tame P (Pure.pure x : Action α) := of_silent (fun _ => rfl) nofun

theorem get : Tame P (MonadState.get : Action World) := of_silent (fun _ => rfl) nofun

theorem ask (question : Tree → α) : Tame P (Action.ask question) := of_silent (fun _ => rfl) nofun

theorem throw {e : Failure} (he : P e) : Tame P (MonadExcept.throw e : Action α) :=
  of_silent (fun _ => rfl) fun hr => by
    cases hr
    exact he

theorem fail {cause : Cause} (hc : P (.reported { cause })) : Tame P (Action.fail cause : Action α) := throw hc

theorem crash {c : Crash} (hc : P (.crashed c)) : Tame P (Action.crash c : Action α) := throw hc

theorem log {level : Level} (hl : level ≠ .error) (text : String) : Tame P (Action.log level text) where
  quiet w := ⟨[(level, text)], rfl, fun entry h => by rwa [List.mem_singleton.mp h]⟩
  fails h := by cases h

theorem bind (ha : Tame P a) (hf : ∀ x, Tame P (f x)) : Tame P (a >>= f) where
  quiet := Leads.bind ha.quiet (fun x => (hf x).quiet) Hushed.trans
  fails hr := by
    rcases bind_error.mp hr with hr | ⟨x, w1, -, hr⟩
    · exact ha.fails hr
    · exact (hf x).fails hr

theorem logWords {level : Level} (hl : level ≠ .error) (words : String) : Tame P (Action.logWords level words) := by
  unfold Action.logWords
  split
  · exact pure ()
  · exact log hl _

theorem attempt (operation : Tree → Except FileError Tree) : Tame P (Action.attempt operation) := by
  refine of_silent (fun w => ?_) fun {w f w'} hr => ?_
  · rw [attempt_run]
    cases operation w.tree <;> rfl
  · rw [attempt_run] at hr
    cases ho : operation w.tree <;> (rw [ho] at hr; cases hr)

theorem run {h : Host} {argv : List String} (hP : ∀ n t c, h.RunCrashes n argv t c → P (.crashed c)) :
    Tame P (Action.run h argv) where
  quiet w := by
    refine ⟨[(.debug, "Running " ++ " ".intercalate argv)], ?_, fun entry he => ?_⟩
    · rcases run_cases h argv w with ⟨e, -, hrun⟩ | ⟨r, t, report, -, -, hrun⟩ | ⟨c, t, -, hrun⟩ <;> (rw [hrun]; rfl)
    · rw [List.mem_singleton.mp he]
      exact nofun
  fails {w f w'} hr := by
    obtain ⟨c, rfl, hcrash⟩ := run_error hr
    exact hP _ _ c hcrash

/-- What crashes is the text or the path. -/
theorem save {h : Host} {path text : String} (hP : ∀ c, Unsaved path text c → P (.crashed c)) :
    Tame P (Action.save h path text) := by
  refine of_silent (fun w => ?_) fun {w f w'} hr => ?_
  · have hsaves := saves_save h path text w
    generalize Action.save h path text w = out at hsaves ⊢
    cases hsaves <;> rfl
  · obtain ⟨-, c, rfl, hc⟩ := save_error hr
    exact hP c hc

theorem move {h : Host} {source name target : String} (hP : ∀ c, unfit? target = some c → P (.crashed c)) :
    Tame P (Action.move h source name target) := by
  refine of_silent (fun w => ?_) fun {w f w'} hr => ?_
  · have hmoves := moves_move h source name target w
    generalize Action.move h source name target w = out at hmoves ⊢
    cases hmoves <;> rfl
  · have hmoves := moves_move h source name target w
    rw [hr] at hmoves
    cases hmoves with
    | crashed hp => exact hP _ hp

theorem clear {operation : Tree → Except FileError Tree} (hP : ∀ t e, Stuck operation t e → P (.crashed (.files e))) :
    Tame P (Action.clear operation) := by
  refine of_silent (fun w => ?_) fun {w f w'} hr => ?_
  · rcases clear_cases operation w with ⟨t, -, hrun⟩ | ⟨e, -, -, hrun⟩ | ⟨e, -, hrun⟩ <;> rw [hrun]
  · obtain ⟨-, e, rfl, hstuck⟩ := clear_error hr
    exact hP _ e hstuck

theorem discard (h : Host) (path : String) : Tame P (Action.discard h path) := by
  unfold Action.discard
  exact (attempt _).bind fun _ => pure ()

theorem ensure {after : Action Unit} (ha : Tame P a) (hb : Tame P after) : Tame P (Action.ensure a after) where
  quiet := Leads.ensure ha.quiet hb.quiet Hushed.trans
  fails hr := by
    rcases ensure_error hr with ⟨w1, hbody⟩ | ⟨r, w1, -, hafter⟩
    · exact ha.fails hbody
    · exact hb.fails hafter

/-- What comes last. -/
theorem after {w w' : World} {e : Failure} (hf : ∀ x, Tame P (f x)) (hr : (a >>= f) w = (.error e, w')) :
    a w = (.error e, w') ∨ P e :=
  (bind_error.mp hr).imp_right fun ⟨x, _, _, hx⟩ => (hf x).fails hx

theorem mapM {g : α → Action β} : ∀ {xs : List α}, (∀ x ∈ xs, Tame P (g x)) → Tame P (xs.mapM g)
  | [], _ => by
    rw [List.mapM_nil]
    exact pure []
  | x :: xs, hg => by
    rw [List.mapM_cons]
    exact (hg x List.mem_cons_self).bind fun _ =>
      (mapM fun y hy => hg y (List.mem_cons_of_mem x hy)).bind fun _ => pure _

theorem foldlM {g : β → α → Action β} (hg : ∀ s x, Tame P (g s x)) :
    ∀ {xs : List α} {s : β}, Tame P (xs.foldlM g s)
  | [], s => by
    rw [List.foldlM_nil]
    exact pure s
  | x :: xs, s => by
    rw [List.foldlM_cons]
    exact (hg s x).bind fun _ => foldlM hg

theorem inContext {context : String} (ha : Tame P a) (hPQ : ∀ f, P f → Q (within context f)) :
    Tame Q (Action.inContext context a) where
  quiet := Leads.inContext ha.quiet
  fails {w failure w'} hr := by
    rw [inContext_run] at hr
    rcases hrun : a w with ⟨r, w1⟩
    rw [hrun] at hr
    cases r with
    | ok x => cases hr
    | error e =>
      cases hr
      exact hPQ _ (ha.fails hrun)

end Tame

end ShaderBundle.Action
