import ShaderBundle.Proofs.Files.Operations

/-!
# Trees that answer alike

Relations between trees that no question and no change of a single file can tell apart. Equality is one. That the same
files are there is another one: the order of the entries is no part of it.

* `Likeness`: such relations; `Likeness.eq`, `Likeness.same_files`.
* `Likeness.readFile`, `Likeness.writeFile`, `Likeness.removeFile`: the operations on trees that are related.
-/

namespace ShaderBundle

/-- Both fail with the same error, or succeed with results related by `R`. -/
inductive Both {ε α : Type} (R : α → α → Prop) : Except ε α → Except ε α → Prop
  | ok {x y} (h : R x y) : Both R (.ok x) (.ok y)
  | error (e) : Both R (.error e) (.error e)

theorem Both.refl {ε α : Type} {R : α → α → Prop} (hR : ∀ x, R x x) (r : Except ε α) : Both R r r := by
  cases r with
  | ok x => exact .ok (hR x)
  | error e => exact .error e

theorem Both.bind {ε α β : Type} {R : α → α → Prop} {S : β → β → Prop} {x x' : Except ε α} {f f' : α → Except ε β}
    (hx : Both R x x') (hf : ∀ a a', R a a' → Both S (f a) (f' a')) : Both S (x >>= f) (x' >>= f') := by
  cases hx with
  | ok h => exact hf _ _ h
  | error e => exact .error e

namespace Tree

variable {T : Tree → Tree → Prop} {t t' : Tree}

/-- Trees related by `T` hold the same files, and do so after the same change. -/
structure Likeness (T : Tree → Tree → Prop) : Prop where
  refl : ∀ t, T t t
  same : ∀ {t t'}, T t t' → t.Same t'
  put : ∀ {t t'} (l : Location) (e : Entry), T t t' → T (t.put l e) (t'.put l e)
  erase : ∀ {t t'} (l : Location), T t t' → T (t.erase l) (t'.erase l)

theorem Likeness.eq : Likeness Eq where
  refl _ := rfl
  same h := h ▸ Same.refl _
  put l e h := congrArg (Tree.put · l e) h
  erase l h := congrArg (Tree.erase · l) h

theorem Same.put (h : t.Same t') (l : Location) (e : Entry) : (t.put l e).Same (t'.put l e) := by
  intro k
  by_cases hl : l = []
  · by_cases hk : k = []
    · rw [hk]
      rfl
    · have hlookup := h k
      rw [get?, get?, if_neg hk, if_neg hk] at hlookup
      rw [get?, get?, if_neg hk, if_neg hk, Tree.put, Tree.put, lookup_putIn, lookup_putIn, hlookup]
  · rw [get?_put hl, get?_put hl, h]

theorem Same.erase (h : t.Same t') (l : Location) : (t.erase l).Same (t'.erase l) := by
  intro k
  by_cases hk : k = []
  · rw [hk]
    rfl
  · have hlookup := h k
    rw [get?, get?, if_neg hk, if_neg hk] at hlookup
    have hkeep := lookup_filter_key (fun m => decide (m ≠ l)) k
    rw [get?, get?, if_neg hk, if_neg hk, Tree.erase, Tree.erase, hkeep, hkeep, hlookup]

/-- Nor need the entries be in the same order. -/
theorem Likeness.same_files : Likeness Same where
  refl := Same.refl
  same h := h
  put l e h := h.put l e
  erase l h := h.erase l

namespace Likeness

variable (hT : Likeness T) (h : T t t') (here : Location) (path : String)
include hT h

theorem readFile : t.readFile here path = t'.readFile here path := (hT.same h).readFile here path

theorem writeFile (content : Bytes) : Both T (t.writeFile here path content) (t'.writeFile here path content) := by
  unfold Tree.writeFile
  rw [(hT.same h).locate]
  cases t'.locate here path with
  | error fault => exact .error _
  | ok l =>
    dsimp only [bind, Except.bind]
    rw [hT.same h l]
    cases t'.get? l with
    | none => exact .ok (hT.put l _ h)
    | some e =>
      cases e with
      | directory => exact .error _
      | file c x => exact .ok (hT.put l _ h)

theorem removeFile : Both T (t.removeFile here path) (t'.removeFile here path) := by
  unfold Tree.removeFile
  rw [(hT.same h).find]
  cases t'.find here path with
  | error fault => exact .error _
  | ok found =>
    obtain ⟨l, e⟩ := found
    cases e with
    | directory => exact .error _
    | file c x => exact .ok (hT.erase l h)

end Likeness

end Tree

end ShaderBundle
