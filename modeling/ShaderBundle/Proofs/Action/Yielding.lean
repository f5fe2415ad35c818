import ShaderBundle.Proofs.Action.Writing

/-!
# Actions that succeed

An action yields a result if it ends with it, and not with a failure, wherever it starts from a tree of some kind.

* `Yields I J a x`: from a tree with `I`, the result `x` and a tree with `J`. Combinations of such actions are such
  actions.
-/

namespace ShaderBundle.Action

variable {α β : Type} {I J K : Tree → Prop} {a : Action α} {f : α → Action β} {x : α} {y : β}

def Yields (I J : Tree → Prop) (a : Action α) (x : α) : Prop :=
  ∀ w, I w.tree → ∃ w', a w = (.ok x, w') ∧ J w'.tree

namespace Yields

theorem pure (x : α) : Yields I I (Pure.pure x) x := fun w hw => ⟨w, rfl, hw⟩

theorem mono {I' J' : Tree → Prop} (ha : Yields I J a x) (hI : ∀ t, I' t → I t) (hJ : ∀ t, J t → J' t) :
    Yields I' J' a x := by
  intro w hw
  obtain ⟨w', hrun, hw'⟩ := ha w (hI w.tree hw)
  exact ⟨w', hrun, hJ w'.tree hw'⟩

/-- An action that changes nothing there. -/
theorem of_run (h : ∀ w, I w.tree → a w = (.ok x, w)) : Yields I I a x := fun w hw => ⟨w, h w hw, hw⟩

theorem log (level : Level) (text : String) : Yields I I (Action.log level text) () := fun _ hw => ⟨_, rfl, hw⟩

theorem logWords (level : Level) (words : String) : Yields I I (Action.logWords level words) () := by
  intro w hw
  obtain ⟨entries, hlog⟩ := logWords_run level words w
  exact ⟨_, hlog, hw⟩

theorem get_bind {f : World → Action β} (h : ∀ w, I w.tree → Yields (· = w.tree) J (f w) y) :
    Yields I J (MonadState.get >>= f) y := fun w hw => h w hw w rfl

theorem resolveTool {h : Host} {name tool : String} (hf : ∀ t, I t → h.findTool? t name = some tool) :
    Yields I I (Action.resolveTool h name) tool := by
  refine get_bind fun w hw => ?_
  rw [hf w.tree hw]
  exact fun w' hw' => ⟨w', rfl, hw' ▸ hw⟩

theorem run {h : Host} {argv : List String} {r : ProcessResult} {report : ProcessReport}
    (hread : r.read = .ok report) (ht : ∀ n t, I t → ∃ t', h.start n argv t = .ok (r, t') ∧ J t') :
    Yields I J (Action.run h argv) (.ok report) := by
  intro w hw
  obtain ⟨t', hrun, ht'⟩ := ht w.runs.length w.tree hw
  exact ⟨{ started argv w with tree := t' }, by simp only [run_run, hrun, hread], ht'⟩

theorem save {h : Host} {path text : String} (he : Text.Writable text) (htakes : h.Takes path)
    (ht : ∀ t, I t → ∃ t', t.writeFile h.here path (Text.toUtf8 text) = .ok t' ∧ J t') :
    Yields I J (Action.save h path text) (.ok ()) := by
  intro w hw
  obtain ⟨t', hwrite, ht'⟩ := ht w.tree hw
  exact ⟨{ w with tree := t' }, save_run he htakes.plain (htakes.whole _ _) hwrite, ht'⟩

theorem clear {operation : Tree → Except FileError Tree} (h : ∀ t, I t → ∃ t', operation t = .ok t' ∧ J t') :
    Yields I J (Action.clear operation) () := by
  intro w hw
  obtain ⟨t', hok, ht'⟩ := h w.tree hw
  exact ⟨{ w with tree := t' }, clear_run hok, ht'⟩

theorem bind (ha : Yields I J a x) (hf : Yields J K (f x) y) : Yields I K (a >>= f) y := by
  intro w hw
  obtain ⟨w1, hrun, hw1⟩ := ha w hw
  obtain ⟨w2, hrun', hw2⟩ := hf w1 hw1
  exact ⟨w2, bind_ok.mpr ⟨x, w1, hrun, hrun'⟩, hw2⟩

theorem attempt {operation : Tree → Except FileError Tree} (h : ∀ t, I t → ∃ t', operation t = .ok t' ∧ J t') :
    Yields I J (Action.attempt operation) (.ok ()) := by
  intro w hw
  obtain ⟨t, hok, ht⟩ := h w.tree hw
  exact ⟨{ w with tree := t }, attempt_ok.mpr (.inl ⟨t, hok, rfl, rfl⟩), ht⟩

theorem ensure {after : Action Unit} (ha : Yields I J a x) (hafter : Yields J K after ()) :
    Yields I K (Action.ensure a after) x := by
  intro w hw
  obtain ⟨w1, hrun, hw1⟩ := ha w hw
  obtain ⟨w2, hlast, hw2⟩ := hafter w1 hw1
  exact ⟨w2, ensure_run hrun hlast, hw2⟩

theorem inContext {context : String} (ha : Yields I J a x) : Yields I J (Action.inContext context a) x := by
  intro w hw
  obtain ⟨w1, hrun, hw1⟩ := ha w hw
  exact ⟨w1, inContext_ok.mpr hrun, hw1⟩

theorem mapM {g : α → Action β} {R : α → β → Prop} {xs : List α} {ys : List β} (hall : List.Forall₂ R xs ys)
    (h : ∀ x ∈ xs, ∀ y, R x y → Yields I I (g x) y) : Yields I I (xs.mapM g) ys := by
  induction hall with
  | nil =>
    rw [List.mapM_nil]
    exact pure []
  | @cons x y xs ys hxy _ ih =>
    rw [List.mapM_cons]
    exact (h x List.mem_cons_self y hxy).bind
      ((ih fun x' hx' => h x' (List.mem_cons_of_mem x hx')).bind (pure _))

end Yields

end ShaderBundle.Action
