import Mathlib.Data.List.Forall2
import ShaderBundle.Action

/-!
# Laws of actions

How combined actions run, and what they keep.

* `bind_ok`, `ensure_ok`, `inContext_ok`, `mapM_ok`: a combination that succeeds, taken apart.
* `bind_error`: one that fails.
* `Leads R a`: whatever the outcome, `a` leads from each world to one that is related to it. Combinations of such
  actions are such actions.
* `Keeps I a`: whatever the outcome, `a` leaves a tree with `I` in a tree with `I`.
-/

namespace ShaderBundle.Action

variable {α β : Type} {a : Action α} {f : α → Action β} {w w' : World} {x : α} {y : β}

/-! ## Running -/

theorem bind_run (a : Action α) (f : α → Action β) (w : World) :
    (a >>= f) w =
      match a w with
      | (.ok x, w') => f x w'
      | (.error e, w') => (.error e, w') := by
  cases h : a w with
  | mk r w' =>
    have hrun : (a >>= f) w = ExceptT.bindCont f r w' := by
      change (ExceptT.bindCont f (a w).1) (a w).2 = _
      rw [h]
    rw [hrun]
    cases r <;> rfl

theorem bind_ok : (a >>= f) w = (.ok y, w') ↔ ∃ x w1, a w = (.ok x, w1) ∧ f x w1 = (.ok y, w') := by
  rw [bind_run]
  constructor
  · intro h
    split at h
    · next x w1 ha => exact ⟨x, w1, ha, h⟩
    · cases h
  · rintro ⟨x, w1, ha, hf⟩
    rw [ha]
    exact hf

theorem bind_error {e : Failure} : (a >>= f) w = (.error e, w') ↔
    a w = (.error e, w') ∨ ∃ x w1, a w = (.ok x, w1) ∧ f x w1 = (.error e, w') := by
  rw [bind_run]
  constructor
  · intro h
    split at h
    · next x w1 ha => exact .inr ⟨x, w1, ha, h⟩
    · next e' w1 ha =>
      cases h
      exact .inl ha
  · rintro (ha | ⟨x, w1, ha, hf⟩)
    · rw [ha]
    · rw [ha]
      exact hf

theorem bind_run_ok (ha : a w = (.ok x, w')) : (a >>= f) w = f x w' := by
  rw [bind_run, ha]

theorem bind_run_error {e : Failure} (ha : a w = (.error e, w')) : (a >>= f) w = (.error e, w') := by
  rw [bind_run, ha]

theorem bind_pure_run (a : Action α) (g : α → β) (w : World) :
    (a >>= fun x => pure (g x)) w = ((a w).1.map g, (a w).2) := by
  rw [bind_run]
  rcases a w with ⟨_ | x, w1⟩ <;> rfl

/-- Where nothing but a result is added to an action, its failures are the same. -/
theorem bind_pure_error {g : α → β} {e : Failure} (h : (a >>= fun x => pure (g x)) w = (.error e, w')) :
    a w = (.error e, w') := by
  rcases bind_error.mp h with h | ⟨x, w1, -, h⟩
  · exact h
  · cases h

theorem log_run (level : Level) (text : String) (w : World) :
    log level text w = (.ok (), { w with log := w.log ++ [(level, text)] }) := rfl

theorem ask_run (question : Tree → α) (w : World) : ask question w = (.ok (question w.tree), w) := rfl

theorem attempt_run (operation : Tree → Except FileError Tree) (w : World) :
    attempt operation w =
      match operation w.tree with
      | .ok t => (.ok (.ok ()), { w with tree := t })
      | .error e => (.ok (.error e), w) := by
  have hrun : attempt operation w = (match operation w.tree with
    | .ok t => do
      modify fun w => { w with tree := t }
      return .ok ()
    | .error e => return .error e : Action (Except FileError Unit)) w := rfl
  rw [hrun]
  cases operation w.tree <;> rfl

/-- The world in which a tool has been started, and has done nothing yet. -/
def started (argv : List String) (w : World) : World :=
  { w with log := w.log ++ [(.debug, "Running " ++ " ".intercalate argv)], runs := w.runs ++ [argv] }

theorem run_run (h : Host) (argv : List String) (w : World) :
    run h argv w =
      match h.start w.runs.length argv w.tree with
      | .error (.refused e) => (.ok (.error e), started argv w)
      | .error (.unfit c) => (.error (.crashed c), started argv w)
      | .ok (result, t) =>
        match result.read with
        | .ok report => (.ok (.ok report), { started argv w with tree := t })
        | .error fault => (.error (.crashed (.undecodable fault)), { started argv w with tree := t }) := by
  have hrun : run h argv w = (match h.start w.runs.length argv w.tree with
    | .error (.refused e) => return .error e
    | .error (.unfit c) => crash c
    | .ok (result, t) => do
      modify fun w => { w with tree := t }
      match result.read with
      | .ok report => return .ok report
      | .error fault => crash (.undecodable fault) : Action (Except FileError ProcessReport)) (started argv w) := rfl
  rw [hrun]
  rcases h.start w.runs.length argv w.tree with (e | _) | ⟨result, t⟩
  · rfl
  · rfl
  · dsimp only
    rw [bind_run]
    cases result.read <;> rfl

theorem attempt_ok {operation : Tree → Except FileError Tree} {r : Except FileError Unit} :
    attempt operation w = (.ok r, w') ↔
      (∃ t, operation w.tree = .ok t ∧ r = .ok () ∧ w' = { w with tree := t }) ∨
        ∃ e, operation w.tree = .error e ∧ r = .error e ∧ w' = w := by
  rw [attempt_run]
  cases operation w.tree with
  | ok t =>
    constructor
    · intro h
      cases h
      exact .inl ⟨t, rfl, rfl, rfl⟩
    · rintro (⟨t', ht, rfl, rfl⟩ | ⟨e, he, -⟩)
      · cases ht
        rfl
      · cases he
  | error e =>
    constructor
    · intro h
      cases h
      exact .inr ⟨e, rfl, rfl, rfl⟩
    · rintro (⟨t', ht, -⟩ | ⟨e', he, rfl, rfl⟩)
      · cases ht
      · cases he
        rfl

end Action

/-! ## Starting tools -/

theorem ProcessResult.read_eq_ok {r : ProcessResult} {report : ProcessReport} : r.read = .ok report ↔
    r.stdout = .ok report.stdout ∧ r.stderr = .ok report.stderr ∧ report.status = r.status := by
  obtain ⟨status, stdout, stderr⟩ := r
  obtain ⟨status', out, err⟩ := report
  cases stdout <;> cases stderr <;>
    simp [read, bind, Except.bind, pure, Except.pure, eq_comm, and_comm, and_left_comm]

/-- It ends with status 0, and what it prints is text. -/
def ProcessResult.Succeeds (r : ProcessResult) : Prop := ∃ report, r.read = .ok report ∧ report.status = 0

theorem ProcessResult.succeeds_of_read {r : ProcessResult} {report : ProcessReport} (hr : r.read = .ok report) :
    r.Succeeds ↔ report.status = 0 := by
  constructor
  · rintro ⟨report', hr', hstatus⟩
    cases hr.symm.trans hr'
    exact hstatus
  · exact fun hstatus => ⟨report, hr, hstatus⟩

theorem ProcessResult.not_succeeds_of_read {r : ProcessResult} {fault : Text.DecodeFault}
    (hr : r.read = .error fault) : ¬r.Succeeds := by
  rintro ⟨report, hr', -⟩
  cases hr.symm.trans hr'

instance (r : ProcessResult) : Decidable r.Succeeds :=
  match hr : r.read with
  | .ok _ => decidable_of_iff _ (ProcessResult.succeeds_of_read hr).symm
  | .error _ => isFalse (ProcessResult.not_succeeds_of_read hr)

theorem unfit?_eq_none {word : String} : unfit? word = none ↔ isPlain word = true := Option.isNone_iff_eq_none.symm

theorem findSome?_unfit?_eq_none {argv : List String} : argv.findSome? unfit? = none ↔ argv.all isPlain = true := by
  rw [List.findSome?_eq_none_iff, List.all_eq_true]
  exact forall₂_congr fun _ _ => unfit?_eq_none

theorem ifPlain_eq_ok {γ : Type} {argv : List String} {outcome : Except FileError γ} {x : γ} :
    ifPlain argv outcome = .ok x ↔ argv.all isPlain = true ∧ outcome = .ok x := by
  rw [← findSome?_unfit?_eq_none]
  unfold ifPlain
  split
  · next c hunfit => simp [hunfit]
  · next hplain => cases outcome <;> simp [Except.mapError, hplain]

/-- Two commands of one kind are started alike where they fail alike. -/
theorem ifPlain_eq_error {γ δ : Type} {argv : List String} {outcome : Except FileError γ}
    {outcome' : Except FileError δ} (h : ∀ e, outcome = .error e → outcome' = .error e) {fault : StartFault}
    (hf : ifPlain argv outcome = .error fault) : ifPlain argv outcome' = .error fault := by
  unfold ifPlain at hf ⊢
  cases hunfit : argv.findSome? unfit? with
  | some c =>
    rw [hunfit] at hf
    cases hf
    rfl
  | none =>
    rw [hunfit] at hf
    cases ho : outcome with
    | error e =>
      rw [ho] at hf
      rw [h e ho]
      cases hf
      rfl
    | ok x =>
      rw [ho] at hf
      cases hf

theorem ifPlain_of_plain {γ : Type} {argv : List String} (hplain : argv.all isPlain = true)
    (outcome : Except FileError γ) : ifPlain argv outcome = outcome.mapError .refused := by
  rw [ifPlain, findSome?_unfit?_eq_none.mpr hplain]

theorem Host.start_eq_ok {h : Host} {n : Nat} {argv : List String} {t : Tree} {x : ProcessResult × Tree} :
    h.start n argv t = .ok x ↔ argv.all isPlain = true ∧ h.tools n argv t = .ok x := ifPlain_eq_ok

theorem ifPlain_eq_unfit {γ : Type} {argv : List String} {outcome : Except FileError γ} {c : Crash} :
    ifPlain argv outcome = .error (.unfit c) ↔ argv.findSome? unfit? = some c := by
  unfold ifPlain
  cases argv.findSome? unfit? with
  | some c' => simp
  | none => cases outcome <;> simp [Except.mapError]

theorem Host.start_eq_unfit {h : Host} {n : Nat} {argv : List String} {t : Tree} {c : Crash} :
    h.start n argv t = .error (.unfit c) ↔ argv.findSome? unfit? = some c := ifPlain_eq_unfit

/-- What a run of a command line crashes with: it cannot be given to the system, or what the tool prints is no text. -/
inductive Host.RunCrashes (h : Host) (n : Nat) (argv : List String) (t : Tree) : Crash → Prop
  | unfit {c} (hu : argv.findSome? unfit? = some c) : RunCrashes h n argv t c
  | illegible {r t' fault} (hs : h.start n argv t = .ok (r, t')) (hr : r.read = .error fault) :
      RunCrashes h n argv t (.undecodable fault)

namespace Action

variable {α β : Type} {a : Action α} {f : α → Action β} {w w' : World} {x : α} {y : β}

/-- A tool is not started, or its run is reported on, or it crashes. -/
theorem run_cases (h : Host) (argv : List String) (w : World) :
    (∃ e, h.start w.runs.length argv w.tree = .error (.refused e) ∧ run h argv w = (.ok (.error e), started argv w)) ∨
    (∃ r t report, h.start w.runs.length argv w.tree = .ok (r, t) ∧ r.read = .ok report ∧
      run h argv w = (.ok (.ok report), { started argv w with tree := t })) ∨
    ∃ c t, h.RunCrashes w.runs.length argv w.tree c ∧
      run h argv w = (.error (.crashed c), { started argv w with tree := t }) := by
  rw [run_run]
  rcases hs : h.start w.runs.length argv w.tree with (e | c) | ⟨r, t⟩
  · exact .inl ⟨e, rfl, rfl⟩
  · exact .inr (.inr ⟨c, w.tree, .unfit (Host.start_eq_unfit.mp hs), rfl⟩)
  · right
    dsimp only
    cases hread : r.read with
    | ok report => exact .inl ⟨r, t, report, rfl, hread, rfl⟩
    | error fault => exact .inr ⟨_, t, .illegible hs hread, rfl⟩

/-- A tool whose run is reported on has left the tree that is there now. -/
theorem run_ok {h : Host} {argv : List String} {report : ProcessReport}
    (hr : run h argv w = (.ok (.ok report), w')) :
    ∃ r, h.start w.runs.length argv w.tree = .ok (r, w'.tree) ∧ r.read = .ok report := by
  rcases run_cases h argv w with ⟨e, -, hrun⟩ | ⟨r, t, report', hs, hread, hrun⟩ | ⟨c, t, -, hrun⟩
  · cases hrun.symm.trans hr
  · cases hrun.symm.trans hr
    exact ⟨r, hs, hread⟩
  · cases hrun.symm.trans hr

theorem run_error {h : Host} {argv : List String} {f : Failure} (hr : run h argv w = (.error f, w')) :
    ∃ c, f = .crashed c ∧ h.RunCrashes w.runs.length argv w.tree c := by
  rcases run_cases h argv w with ⟨e, -, hrun⟩ | ⟨r, t, report, -, -, hrun⟩ | ⟨c, t, hcrash, hrun⟩
  · cases hrun.symm.trans hr
  · cases hrun.symm.trans hr
  · cases hrun.symm.trans hr
    exact ⟨c, rfl, hcrash⟩

theorem resolveTool_ok {h : Host} {name tool : String} (hr : resolveTool h name w = (.ok tool, w')) :
    h.findTool? w.tree name = some tool ∧ w' = w := by
  unfold resolveTool at hr
  obtain ⟨_, _, hget, hr⟩ := bind_ok.mp hr
  cases hget
  cases hf : h.findTool? w.tree name with
  | none =>
    rw [hf] at hr
    cases hr
  | some path =>
    rw [hf] at hr
    cases hr
    exact ⟨rfl, rfl⟩

/-- What is not found is reported. -/
theorem resolveTool_error {h : Host} {name : String} {e : Failure} (hr : resolveTool h name w = (.error e, w')) :
    w' = w ∧ ∃ cause, e = .reported { cause } := by
  unfold resolveTool at hr
  rcases bind_error.mp hr with hget | ⟨_, _, hget, hr⟩
  · cases hget
  cases hget
  cases hf : h.findTool? w.tree name with
  | none =>
    rw [hf] at hr
    cases hr
    exact ⟨rfl, _, rfl⟩
  | some path =>
    rw [hf] at hr
    cases hr

/-- Logging changes the log alone. -/
theorem logWords_run (level : Level) (words : String) (w : World) :
    ∃ entries, logWords level words w = (.ok (), { w with log := w.log ++ entries }) := by
  unfold logWords
  split
  · exact ⟨[], by rw [List.append_nil]; rfl⟩
  · exact ⟨_, rfl⟩

theorem ensure_run {body : Action α} {after : Action Unit} {r : Except Failure α} {w1 w2 : World}
    (hb : body w = (r, w1)) (ha : after w1 = (.ok (), w2)) : ensure body after w = (r, w2) := by
  unfold ensure
  rw [hb]
  dsimp only
  rw [ha]

theorem ensure_run_error {body : Action α} {after : Action Unit} {r : Except Failure α} {w1 w2 : World}
    {e : Failure} (hb : body w = (r, w1)) (ha : after w1 = (.error e, w2)) :
    ensure body after w = (.error e, w2) := by
  unfold ensure
  rw [hb]
  dsimp only
  rw [ha]

theorem ensure_ok {body : Action α} {after : Action Unit} :
    ensure body after w = (.ok x, w') ↔ ∃ w1, body w = (.ok x, w1) ∧ after w1 = (.ok (), w') := by
  constructor
  · intro h
    rcases hb : body w with ⟨r, w1⟩
    rcases ha : after w1 with ⟨_ | ⟨⟩, w2⟩
    · rw [ensure_run_error hb ha] at h
      cases h
    · rw [ensure_run hb ha] at h
      cases h
      exact ⟨w1, rfl, ha⟩
  · rintro ⟨w1, hb, ha⟩
    exact ensure_run hb ha

theorem ensure_error {body : Action α} {after : Action Unit} {e : Failure}
    (hr : ensure body after w = (.error e, w')) :
    (∃ w1, body w = (.error e, w1)) ∨ ∃ r w1, body w = (r, w1) ∧ after w1 = (.error e, w') := by
  rcases hb : body w with ⟨r, w1⟩
  rcases ha : after w1 with ⟨f | ⟨⟩, w2⟩
  · rw [ensure_run_error hb ha] at hr
    cases hr
    exact .inr ⟨r, w1, rfl, ha⟩
  · rw [ensure_run hb ha] at hr
    cases hr
    exact .inl ⟨w1, rfl⟩

/-- The failure that is seen outside of a context. -/
def within (context : String) : Failure → Failure
  | .reported e => .reported { e with context := some context }
  | .crashed c => .crashed c

theorem inContext_run (context : String) (body : Action α) (w : World) :
    inContext context body w = ((body w).1.mapError (within context), (body w).2) := by
  unfold inContext
  rcases body w with ⟨_ | _, w'⟩
  · next e => cases e <;> rfl
  · rfl

theorem inContext_ok {context : String} {body : Action α} :
    inContext context body w = (.ok x, w') ↔ body w = (.ok x, w') := by
  unfold inContext
  split
  · next h =>
    rw [h]
    constructor <;> (intro h'; cases h')
  · rfl

/-- What every step of a loop does and keeps. -/
theorem mapM_ok {I : Tree → Prop} {R : α → β → Prop} :
    ∀ {xs : List α} {ys : List β} {w w' : World},
      (∀ x ∈ xs, ∀ w w' y, I w.tree → f x w = (.ok y, w') → I w'.tree ∧ R x y) →
      xs.mapM f w = (.ok ys, w') → I w.tree → I w'.tree ∧ List.Forall₂ R xs ys
  | [], _, _, _, _, hr, hw => by
    rw [List.mapM_nil] at hr
    cases hr
    exact ⟨hw, .nil⟩
  | x :: xs, _, _, _, hstep, hr, hw => by
    rw [List.mapM_cons] at hr
    obtain ⟨y, w1, hx, hr⟩ := bind_ok.mp hr
    obtain ⟨ys, w2, hxs, hr⟩ := bind_ok.mp hr
    cases hr
    obtain ⟨hw1, hxy⟩ := hstep x List.mem_cons_self _ _ _ hw hx
    obtain ⟨hw2, hall⟩ := mapM_ok (fun x' hx' => hstep x' (List.mem_cons_of_mem x hx')) hxs hw1
    exact ⟨hw2, .cons hxy hall⟩

/-! ## Leading -/

/-- However it ends, it leads from each world to one that is in this relation to it. -/
def Leads (R : World → World → Prop) (a : Action α) : Prop := ∀ w, R w (a w).2

namespace Leads

variable {R S : World → World → Prop}

theorem bind (ha : Leads R a) (hf : ∀ x, Leads S (f x)) (hRS : ∀ {w w1 w2}, R w w1 → S w1 w2 → R w w2) :
    Leads R (a >>= f) := by
  intro w
  have hw := ha w
  rw [bind_run]
  rcases hr : a w with ⟨r, w1⟩
  rw [hr] at hw
  cases r with
  | ok x => exact hRS hw (hf x w1)
  | error e => exact hw

theorem ensure {after : Action Unit} (ha : Leads R a) (hb : Leads S after)
    (hRS : ∀ {w w1 w2}, R w w1 → S w1 w2 → R w w2) : Leads R (Action.ensure a after) := by
  intro w
  have hboth := hRS (ha w) (hb _)
  rcases hbody : a w with ⟨r, w1⟩
  rw [hbody] at hboth
  rcases hlast : after w1 with ⟨_ | ⟨⟩, w2⟩
  · rw [ensure_run_error hbody hlast]
    rwa [hlast] at hboth
  · rw [ensure_run hbody hlast]
    rwa [hlast] at hboth

theorem inContext {context : String} (ha : Leads R a) : Leads R (Action.inContext context a) := by
  intro w
  rw [inContext_run]
  exact ha w

section
variable (hrefl : ∀ w, R w w) (htrans : ∀ {w w1 w2}, R w w1 → R w1 w2 → R w w2)
include hrefl htrans

theorem mapM {g : α → Action β} : ∀ {xs : List α}, (∀ x ∈ xs, Leads R (g x)) → Leads R (xs.mapM g)
  | [], _ => by
    rw [List.mapM_nil]
    exact hrefl
  | x :: xs, h => by
    rw [List.mapM_cons]
    have hrest : Leads R (xs.mapM g) := mapM fun y hy => h y (List.mem_cons_of_mem x hy)
    exact bind (h x List.mem_cons_self) (fun _ => bind hrest (fun _ => hrefl) htrans) htrans

theorem foldlM {g : β → α → Action β} (h : ∀ s x, Leads R (g s x)) : ∀ {xs : List α} {s : β}, Leads R (xs.foldlM g s)
  | [], s => by
    rw [List.foldlM_nil]
    exact hrefl
  | x :: xs, s => by
    rw [List.foldlM_cons]
    exact bind (h s x) (fun _ => foldlM h) htrans

end

end Leads

/-! ## Keeping -/

/-- Whatever the outcome, a tree with `I` is left with `I`. -/
def Keeps (I : Tree → Prop) (a : Action α) : Prop := ∀ w, I w.tree → I (a w).2.tree

variable {I : Tree → Prop}

/-- Keeping is leading from `I` to `I`. -/
abbrev Kept (I : Tree → Prop) (w w' : World) : Prop := I w.tree → I w'.tree

theorem Kept.trans {w1 w2 : World} (h : Kept I w w1) (h' : Kept I w1 w2) : Kept I w w2 := fun hw => h' (h hw)

namespace Keeps

theorem pure (x : α) : Keeps I (Pure.pure x : Action α) := fun _ h => h

theorem get : Keeps I (MonadState.get : Action World) := fun _ h => h

theorem ask (question : Tree → α) : Keeps I (Action.ask question) := fun _ h => h

theorem throw (e : Failure) : Keeps I (MonadExcept.throw e : Action α) := fun _ h => h

theorem log (level : Level) (text : String) : Keeps I (Action.log level text) := fun _ h => h

theorem fail (cause : Cause) : Keeps I (Action.fail cause : Action α) := fun _ h => h

theorem crash (c : Crash) : Keeps I (Action.crash c : Action α) := fun _ h => h

theorem bind (ha : Keeps I a) (hf : ∀ x, Keeps I (f x)) : Keeps I (a >>= f) :=
  Leads.bind (R := Kept I) (S := Kept I) ha hf Kept.trans

theorem logWords (level : Level) (words : String) : Keeps I (Action.logWords level words) := by
  unfold Action.logWords
  split
  · exact pure ()
  · exact log _ _

theorem attempt {operation : Tree → Except FileError Tree}
    (h : ∀ t t', I t → operation t = .ok t' → I t') : Keeps I (Action.attempt operation) := by
  intro w hw
  rw [attempt_run]
  cases ho : operation w.tree with
  | error e => exact hw
  | ok t => exact h _ _ hw ho

theorem run {h : Host} {argv : List String}
    (ht : ∀ n t r t', I t → h.tools n argv t = .ok (r, t') → I t') : Keeps I (Action.run h argv) := by
  intro w hw
  rw [run_run]
  rcases hs : h.start w.runs.length argv w.tree with (e | _) | ⟨r, t⟩
  · exact hw
  · exact hw
  · have hleft := ht _ _ r t hw (Host.start_eq_ok.mp hs).2
    dsimp only
    cases r.read <;> exact hleft

theorem ensure {after : Action Unit} (ha : Keeps I a) (hb : Keeps I after) : Keeps I (Action.ensure a after) :=
  Leads.ensure (R := Kept I) (S := Kept I) ha hb Kept.trans

theorem inContext {context : String} (ha : Keeps I a) : Keeps I (Action.inContext context a) :=
  Leads.inContext (R := Kept I) ha

theorem mapM {g : α → Action β} {xs : List α} (h : ∀ x ∈ xs, Keeps I (g x)) : Keeps I (xs.mapM g) :=
  Leads.mapM (R := Kept I) (fun _ => id) Kept.trans h

theorem foldlM {g : β → α → Action β} (h : ∀ s x, Keeps I (g s x)) {xs : List α} {s : β} : Keeps I (xs.foldlM g s) :=
  Leads.foldlM (R := Kept I) (fun _ => id) Kept.trans h

end Keeps

end ShaderBundle.Action
