import ShaderBundle.Proofs.Files.Likeness
import ShaderBundle.Proofs.Generate.Steps

/-!
# Two actions side by side

Two actions that start in worlds with trees that are alike in some sense and the same runs, and end in such worlds, or
part at some run that both have made. Their logs may differ, and so may the words of a tool that are kept beside the
message of a failure.

* `Failure.withoutWords`: all of a failure but the words of a tool.
* `Parted X`: a run at which two actions may part has been made. No later run undoes that.
* `Concurs T X Q a a'`: the actions succeed with results related by `Q`, or fail alike, or they part. Combinations of
  such actions are such actions.
-/

namespace ShaderBundle

/-! ## Failures -/

def Cause.withoutWords : Cause → Cause
  | .tool problem name _ => .tool problem name ""
  | .bytecode profile _ => .bytecode profile ""
  | cause => cause

def Failure.withoutWords : Failure → Failure
  | .reported e => .reported { e with cause := e.cause.withoutWords }
  | .crashed c => .crashed c

theorem Cause.message_withoutWords (cause : Cause) : cause.withoutWords.message = cause.message := by
  cases cause <;> rfl

/-- Words are not part of the message. -/
theorem Failure.message_withoutWords (f : Failure) : f.withoutWords.message = f.message := by
  cases f with
  | reported e =>
    obtain ⟨cause, context⟩ := e
    simp only [withoutWords, message, ConvertError.message, Cause.message_withoutWords]
  | crashed c => rfl

theorem Failure.withoutWords_within (context : String) (f : Failure) :
    (Action.within context f).withoutWords = Action.within context f.withoutWords := by
  cases f <;> rfl

/-- A failure that is a rejected source but for the words is one. -/
theorem Failure.eq_bytecode {f : Failure} {profile words : String} {context : Option String}
    (hf : f.withoutWords = (reported ⟨.bytecode profile words, context⟩).withoutWords) :
    ∃ words', f = .reported ⟨.bytecode profile words', context⟩ := by
  cases f with
  | crashed c => cases hf
  | reported e =>
    obtain ⟨cause, context'⟩ := e
    cases cause with
    | bytecode profile' words' =>
      cases hf
      exact ⟨words', rfl⟩
    | other | template | tool | file | reflection => cases hf

namespace Action

variable {T : Tree → Tree → Prop} {X : Nat → List String → Prop} {α β : Type} {Q : α → α → Prop} {R : β → β → Prop}

/-! ## Results -/

/-- Both succeed, or both fail, alike but for words. -/
inductive Agree (Q : α → α → Prop) : Except Failure α → Except Failure α → Prop
  | ok {x y} (h : Q x y) : Agree Q (.ok x) (.ok y)
  | error {e e'} (h : e.withoutWords = e'.withoutWords) : Agree Q (.error e) (.error e')

/-- Where results agree, so do the messages of failures. -/
theorem Agree.mapError {r r' : Except Failure α} (h : Agree Eq r r') :
    r.mapError Failure.withoutWords = r'.mapError Failure.withoutWords ∧
      r.mapError Failure.message = r'.mapError Failure.message := by
  cases h with
  | ok h =>
    rw [h]
    exact ⟨rfl, rfl⟩
  | @error e e' h =>
    have hmessage : e.message = e'.message := by
      rw [← e.message_withoutWords, h, e'.message_withoutWords]
    exact ⟨congrArg Except.error h, congrArg Except.error hmessage⟩

/-- Trees related by `T`, and the same runs. -/
def AlikeBy (T : Tree → Tree → Prop) (w w' : World) : Prop := T w.tree w'.tree ∧ w.runs = w'.runs

theorem AlikeBy.refl (hT : Tree.Likeness T) (w : World) : AlikeBy T w w := ⟨hT.refl _, rfl⟩

/-! ## Parting -/

/-- More may have been run since. -/
def Grown (w w' : World) : Prop := w.runs <+: w'.runs

theorem Grown.trans {w w1 w2 : World} (h : Grown w w1) (h' : Grown w1 w2) : Grown w w2 := List.IsPrefix.trans h h'

theorem Starts.grows {argvs : List (List String)} {a : Action α} (ha : Starts argvs a) : Leads Grown a :=
  fun w => ⟨argvs, (ha w).symm⟩

/-- Both have made a run of this kind, which is told by its command line and by how many runs there were before. -/
def Parted (X : Nat → List String → Prop) (w w' : World) : Prop :=
  ∃ n argv, w.runs[n]? = some argv ∧ w'.runs[n]? = some argv ∧ X n argv

theorem Grown.getElem? {w w' : World} (hg : Grown w w') {n : Nat} {argv : List String} (hn : w.runs[n]? = some argv) :
    w'.runs[n]? = some argv := by
  obtain ⟨rest, hrest⟩ := hg
  rw [← hrest, List.getElem?_append_left (List.getElem?_eq_some_iff.mp hn).1]
  exact hn

theorem Parted.grown {w w' w1 w1' : World} (hp : Parted X w w') (hg : Grown w w1) (hg' : Grown w' w1') :
    Parted X w1 w1' := by
  obtain ⟨n, argv, hn, hn', hx⟩ := hp
  exact ⟨n, argv, hg.getElem? hn, hg'.getElem? hn', hx⟩

/-- From worlds alike to worlds alike, with results that agree, or to worlds that have parted. -/
structure Concurs (T : Tree → Tree → Prop) (X : Nat → List String → Prop) (Q : α → α → Prop) (a a' : Action α) :
    Prop where
  grows : Leads Grown a
  grows' : Leads Grown a'
  meets : ∀ w w', AlikeBy T w w' →
    (Agree Q (a w).1 (a' w').1 ∧ AlikeBy T (a w).2 (a' w').2) ∨ Parted X (a w).2 (a' w').2

namespace Concurs

variable {a a' : Action α} {f f' : α → Action β}

/-- Actions that run the same whatever becomes of them, and do not part. -/
theorem of_starts {argvs argvs' : List (List String)} (ha : Starts argvs a) (ha' : Starts argvs' a')
    (h : ∀ w w', AlikeBy T w w' → Agree Q (a w).1 (a' w').1 ∧ AlikeBy T (a w).2 (a' w').2) : Concurs T X Q a a' :=
  ⟨ha.grows, ha'.grows, fun w w' hw => .inl (h w w' hw)⟩

theorem pure {x y : α} (h : Q x y) : Concurs T X Q (Pure.pure x) (Pure.pure y) :=
  of_starts (.pure x) (.pure y) fun _ _ hw => ⟨.ok h, hw⟩

theorem throw {e e' : Failure} (h : e.withoutWords = e'.withoutWords) :
    Concurs T X Q (MonadExcept.throw e) (MonadExcept.throw e') :=
  of_starts (.throw e) (.throw e') fun _ _ hw => ⟨.error h, hw⟩

theorem fail {cause cause' : Cause} (h : cause.withoutWords = cause'.withoutWords) :
    Concurs T X Q (Action.fail cause) (Action.fail cause') :=
  throw (congrArg (fun cause => Failure.reported { cause }) h)

theorem crash (c : Crash) : Concurs T X Q (Action.crash c) (Action.crash c) := throw rfl

theorem get : Concurs T X (AlikeBy T) MonadState.get MonadState.get :=
  of_starts .get .get fun _ _ hw => ⟨.ok hw, hw⟩

theorem ask {question : Tree → α} (h : ∀ t t', T t t' → question t = question t') :
    Concurs T X Eq (Action.ask question) (Action.ask question) :=
  of_starts (.ask _) (.ask _) fun _ _ hw => ⟨.ok (h _ _ hw.1), hw⟩

theorem log (level level' : Level) (text text' : String) :
    Concurs T X Eq (Action.log level text) (Action.log level' text') :=
  of_starts (.log _ _) (.log _ _) fun _ _ hw => ⟨.ok rfl, hw⟩

theorem logWords (level level' : Level) (words words' : String) :
    Concurs T X Eq (Action.logWords level words) (Action.logWords level' words') := by
  refine of_starts (.logWords _ _) (.logWords _ _) fun w w' hw => ?_
  obtain ⟨_, hlog⟩ := logWords_run level words w
  obtain ⟨_, hlog'⟩ := logWords_run level' words' w'
  rw [hlog, hlog']
  exact ⟨.ok rfl, hw⟩

theorem attempt {operation : Tree → Except FileError Tree}
    (h : ∀ t t', T t t' → Both T (operation t) (operation t')) :
    Concurs T X Eq (Action.attempt operation) (Action.attempt operation) := by
  refine of_starts (.attempt _) (.attempt _) fun w w' hw => ?_
  have hboth := h _ _ hw.1
  rw [attempt_run, attempt_run]
  generalize operation w.tree = r at hboth ⊢
  generalize operation w'.tree = r' at hboth ⊢
  cases hboth with
  | ok ht => exact ⟨.ok rfl, ht, hw.2⟩
  | error e => exact ⟨.ok rfl, hw⟩

/-- On the same tree each operation does the same. -/
theorem both_eq (operation : Tree → Except FileError Tree) (t t' : Tree) (ht : t = t') :
    Both Eq (operation t) (operation t') := by
  rw [ht]
  cases operation t' with
  | ok t => exact .ok rfl
  | error e => exact .error e

/-- What follows is given related results. After actions that have parted, all that counts of it is that no run is
forgotten. -/
theorem bind (ha : Concurs T X Q a a') (hQ : ∀ x, Q x x) (hf : ∀ x y, Q x y → Concurs T X R (f x) (f' y)) :
    Concurs T X R (a >>= f) (a' >>= f') where
  grows := Leads.bind ha.grows (fun x => (hf x x (hQ x)).grows) Grown.trans
  grows' := Leads.bind ha.grows' (fun x => (hf x x (hQ x)).grows') Grown.trans
  meets w w' hw := by
    rcases hrun : a w with ⟨r, w1⟩
    rcases hrun' : a' w' with ⟨r', w1'⟩
    have hmeets := ha.meets w w' hw
    rw [hrun, hrun'] at hmeets
    rw [bind_run, bind_run, hrun, hrun']
    rcases hmeets with ⟨hr, hw1⟩ | hparted
    · cases hr with
      | ok h => exact (hf _ _ h).meets _ _ hw1
      | error h => exact .inl ⟨.error h, hw1⟩
    · right
      refine hparted.grown ?_ ?_
      · cases r with
        | ok x => exact (hf x x (hQ x)).grows w1
        | error e => exact List.prefix_refl _
      · cases r' with
        | ok x => exact (hf x x (hQ x)).grows' w1'
        | error e => exact List.prefix_refl _

/-- Where the first results are equal, what follows is given the same one. -/
theorem bind_eq (ha : Concurs T X Eq a a') (hf : ∀ x, Concurs T X R (f x) (f' x)) :
    Concurs T X R (a >>= f) (a' >>= f') :=
  ha.bind (fun _ => rfl) fun x _ hxy => hxy ▸ hf x

theorem get_bind (hT : Tree.Likeness T) {f f' : World → Action β}
    (hf : ∀ w w', AlikeBy T w w' → Concurs T X R (f w) (f' w')) :
    Concurs T X R (MonadState.get >>= f) (MonadState.get >>= f') :=
  get.bind (AlikeBy.refl hT) hf

theorem discard (hT : Tree.Likeness T) (h : Host) (path : String) :
    Concurs T X Eq (Action.discard h path) (Action.discard h path) :=
  (attempt fun _ _ ht => hT.removeFile ht _ _).bind_eq fun _ => pure rfl

theorem clear {operation : Tree → Except FileError Tree} (h : ∀ t t', T t t' → Both T (operation t) (operation t')) :
    Concurs T X Eq (Action.clear operation) (Action.clear operation) := by
  refine (attempt h).bind_eq fun r => ?_
  cases r with
  | ok u => exact pure rfl
  | error e =>
    dsimp only
    split
    · exact pure rfl
    · exact crash _

/-- What gets written does not depend on the tools. -/
theorem save (hT : Tree.Likeness T) (h : Host) (tools : Tools) (path text : String) :
    Concurs T X Eq (Action.save h path text) (Action.save { h with tools } path text) := by
  unfold Action.save
  split
  · unfold Action.write
    split
    · exact crash _
    · refine get_bind hT fun w w' hw => ?_
      have hpart (content : Bytes) : part { h with tools } w'.runs.length path content = part h w.runs.length path content := by
        rw [hw.2]
        rfl
      rw [hpart]
      refine (attempt fun _ _ ht => hT.writeFile ht _ _ _).bind_eq fun r => ?_
      cases r with
      | error e => exact pure rfl
      | ok u =>
        dsimp only
        split
        · exact pure rfl
        · exact pure rfl
  · exact crash _

theorem put (t : Tree) : Concurs Eq X Eq (modify fun w => { w with tree := t }) (modify fun w => { w with tree := t }) := by
  have hstarts : Starts [] (modify fun w => { w with tree := t } : Action Unit) := fun _ => Ran.none_iff.mpr rfl
  exact of_starts hstarts hstarts fun _ _ hw => ⟨.ok rfl, rfl, hw.2⟩

/-- Nor does what is moved. -/
theorem move (h : Host) (tools : Tools) (source name target : String) :
    Concurs Eq X Eq (Action.move h source name target) (Action.move { h with tools } source name target) := by
  unfold Action.move
  split
  · exact crash _
  · refine get_bind .eq fun w w' hw => ?_
    have hcopied (place : String) : copied? { h with tools } w'.runs.length w'.tree source place =
        copied? h w.runs.length w.tree source place := by
      rw [hw.1, hw.2]
      rfl
    dsimp only
    rw [hcopied, ← hw.1]
    split
    · exact pure rfl
    · exact (put _).bind_eq fun _ => pure rfl
    · refine (attempt (both_eq _)).bind_eq fun r => ?_
      cases r with
      | error e => exact pure rfl
      | ok u => exact pure rfl

theorem ensure {after after' : Action Unit} (ha : Concurs T X Q a a') (hb : Concurs T X Eq after after') :
    Concurs T X Q (Action.ensure a after) (Action.ensure a' after') where
  grows := Leads.ensure ha.grows hb.grows Grown.trans
  grows' := Leads.ensure ha.grows' hb.grows' Grown.trans
  meets w w' hw := by
    have hmeets := ha.meets w w' hw
    rcases hrun : a w with ⟨r, w1⟩
    rcases hrun' : a' w' with ⟨r', w1'⟩
    rw [hrun, hrun'] at hmeets
    have hgrows := hb.grows w1
    have hgrows' := hb.grows' w1'
    have hmeets' := hb.meets w1 w1'
    rcases hafter : after w1 with ⟨s, w2⟩
    rcases hafter' : after' w1' with ⟨s', w2'⟩
    rw [hafter] at hgrows hmeets'
    rw [hafter'] at hgrows' hmeets'
    have hends : (Action.ensure a after w).2 = w2 := by
      unfold Action.ensure
      rw [hrun]
      dsimp only
      rw [hafter]
      cases s <;> rfl
    have hends' : (Action.ensure a' after' w').2 = w2' := by
      unfold Action.ensure
      rw [hrun']
      dsimp only
      rw [hafter']
      cases s' <;> rfl
    rw [hends, hends']
    rcases hmeets with ⟨hr, hw1⟩ | hparted
    · rcases hmeets' hw1 with ⟨hlast, hw2⟩ | hparted
      · cases hlast with
        | ok h =>
          rw [ensure_run hrun hafter, ensure_run hrun' hafter']
          exact .inl ⟨hr, hw2⟩
        | error h =>
          rw [ensure_run_error hrun hafter, ensure_run_error hrun' hafter']
          exact .inl ⟨.error h, hw2⟩
      · exact .inr hparted
    · exact .inr (hparted.grown hgrows hgrows')

theorem inContext (context : String) (ha : Concurs T X Q a a') :
    Concurs T X Q (Action.inContext context a) (Action.inContext context a') where
  grows := Leads.inContext ha.grows
  grows' := Leads.inContext ha.grows'
  meets w w' hw := by
    rw [inContext_run, inContext_run]
    refine (ha.meets w w' hw).imp_left fun ⟨hr, hw1⟩ => ⟨?_, hw1⟩
    dsimp only
    generalize (a w).1 = r at hr ⊢
    generalize (a' w').1 = r' at hr ⊢
    cases hr with
    | ok h => exact .ok h
    | error h =>
      refine .error ?_
      rw [Failure.withoutWords_within, Failure.withoutWords_within, h]

theorem mapM {g g' : α → Action β} : ∀ {xs : List α}, (∀ x ∈ xs, Concurs T X Eq (g x) (g' x)) →
    Concurs T X Eq (xs.mapM g) (xs.mapM g')
  | [], _ => by
    rw [List.mapM_nil, List.mapM_nil]
    exact pure rfl
  | x :: xs, h => by
    rw [List.mapM_cons, List.mapM_cons]
    exact (h x List.mem_cons_self).bind_eq fun _ =>
      (mapM fun y hy => h y (List.mem_cons_of_mem x hy)).bind_eq fun _ => pure rfl

theorem foldlM {g g' : β → α → Action β} (h : ∀ s x, Concurs T X Eq (g s x) (g' s x)) : ∀ {xs : List α} {s : β},
    Concurs T X Eq (xs.foldlM g s) (xs.foldlM g' s)
  | [], s => by
    rw [List.foldlM_nil, List.foldlM_nil]
    exact pure rfl
  | x :: xs, s => by
    rw [List.foldlM_cons, List.foldlM_cons]
    exact (h s x).bind_eq fun _ => foldlM h

/-- A handler forgets no run. -/
theorem grown_onRejection {handler : Failure → String → Action α} {r : Except Failure α} {w w1 : World}
    (ha : a w = (r, w1)) (hh : ∀ f words, Leads Grown (handler f words)) :
    Grown w1 (Bytecode.onRejection a handler w).2 := by
  unfold Bytecode.onRejection
  rw [ha]
  split
  · next heq =>
    cases heq
    exact hh _ _ w1
  · exact List.prefix_refl _

/-- Whether a source is rejected does not depend on the words, whatever the handlers do with them. -/
theorem onRejection {handler handler' : Failure → String → Action α} (ha : Concurs T X Q a a')
    (hh : ∀ e e' words words', e.withoutWords = e'.withoutWords →
      Concurs T X Q (handler e words) (handler' e' words')) :
    Concurs T X Q (Bytecode.onRejection a handler) (Bytecode.onRejection a' handler') where
  grows := Bytecode.leads_onRejection ha.grows (fun e words => (hh e e words words rfl).grows) Grown.trans
  grows' := Bytecode.leads_onRejection ha.grows' (fun e words => (hh e e words words rfl).grows') Grown.trans
  meets w w' hw := by
    have hmeets := ha.meets w w' hw
    rcases hrun : a w with ⟨r, w1⟩
    rcases hrun' : a' w' with ⟨r', w1'⟩
    rw [hrun, hrun'] at hmeets
    rcases hmeets with ⟨hr, hw1⟩ | hparted
    · -- the handlers are given different words, so the case of a rejection is one for both sides at once
      by_cases hrejected : ∃ profile words context, r = .error (.reported ⟨.bytecode profile words, context⟩)
      · obtain ⟨profile, words, context, rfl⟩ := hrejected
        cases hr with
        | error h =>
          obtain ⟨words', rfl⟩ := Failure.eq_bytecode h.symm
          rw [Bytecode.onRejection_rejected hrun, Bytecode.onRejection_rejected hrun']
          exact (hh _ _ _ _ h).meets _ _ hw1
      · have hother : ∀ profile words context, r ≠ .error (.reported ⟨.bytecode profile words, context⟩) :=
          fun profile words context h => hrejected ⟨profile, words, context, h⟩
        have hother' : ∀ profile words context, r' ≠ .error (.reported ⟨.bytecode profile words, context⟩) := by
          rintro profile words context rfl
          cases hr with
          | error h =>
            obtain ⟨words', rfl⟩ := Failure.eq_bytecode h
            exact hother _ _ _ rfl
        rw [Bytecode.onRejection_other hrun hother, Bytecode.onRejection_other hrun' hother']
        exact .inl ⟨hr, hw1⟩
    · right
      refine hparted.grown ?_ ?_
      · exact grown_onRejection hrun fun e words => (hh e e words words rfl).grows
      · exact grown_onRejection hrun' fun e words => (hh e e words words rfl).grows'

end Concurs

end Action

end ShaderBundle
