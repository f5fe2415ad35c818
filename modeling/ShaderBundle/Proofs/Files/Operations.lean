import ShaderBundle.Proofs.Files.Walk

/-!
# What operations change

What is known of a tree once an operation on it has succeeded: the one location it was about, what was there
before, and the new tree. Questions depend on the view of a tree alone.

* `writeFile_eq_ok`, `removeFile_eq_ok`, `makeDirectory_eq_ok`, `removeDirectory_eq_ok`, `moveFile_eq_ok`: the changes.
* `Same`: two trees with the same view; `Same.find`, `Same.readFile`, `Same.writeFile`: they answer alike.
* `SetAt`: two trees with the same view but for one location.
-/

namespace ShaderBundle.Tree

variable {t t' : Tree} {here l k : Location} {path : String} {content : Bytes}

/-! ## Changes -/

theorem refused_eq_ok {α : Type} {r : Except Fault α} {a : α} : refused path r = .ok a ↔ r = .ok a :=
  mapError_eq_ok

theorem find_eq_ok {e : Entry} :
    find t here path = .ok (l, e) ↔ locate t here path = .ok l ∧ t.get? l = some e := by
  rw [find, bind_eq_ok]
  constructor
  · rintro ⟨m, hm, h⟩
    cases he : t.get? m with
    | none =>
      rw [he] at h
      cases h
    | some e' =>
      rw [he] at h
      cases h
      exact ⟨hm, he⟩
  · rintro ⟨hl, he⟩
    refine ⟨l, hl, ?_⟩
    rw [he]
    rfl

theorem entry?_of_absent (hl : t.locate here path = .ok l) (hnone : t.get? l = none) :
    t.entry? here path = none := by
  unfold entry?
  cases hf : t.find here path with
  | error e => rfl
  | ok found =>
    obtain ⟨k, d⟩ := found
    obtain ⟨hk, hd⟩ := find_eq_ok.mp hf
    rw [hl, Except.ok.injEq] at hk
    rw [← hk, hnone] at hd
    cases hd

theorem isDirectory_eq_true :
    t.isDirectory here path = true ↔ ∃ l, locate t here path = .ok l ∧ t.get? l = some .directory := by
  unfold isDirectory
  unfold entry?
  cases hf : t.find here path with
  | error e =>
    simp only [Bool.false_eq_true, false_iff]
    rintro ⟨l, hl, hd⟩
    rw [find_eq_ok.mpr ⟨hl, hd⟩] at hf
    cases hf
  | ok found =>
    obtain ⟨hl, he⟩ := find_eq_ok.mp hf
    rw [hl]
    cases hd : found.2 <;> simp [he, hd]

theorem isFile_eq_true : t.isFile here path = true ↔
    ∃ l c x, locate t here path = .ok l ∧ t.get? l = some (.file c x) := by
  unfold isFile
  unfold entry?
  cases hf : t.find here path with
  | error e =>
    simp only [Bool.false_eq_true, false_iff]
    rintro ⟨l, c, x, hl, hd⟩
    rw [find_eq_ok.mpr ⟨hl, hd⟩] at hf
    cases hf
  | ok found =>
    obtain ⟨l, e⟩ := found
    obtain ⟨hl, he⟩ := find_eq_ok.mp hf
    cases e with
    | file c x => exact iff_of_true rfl ⟨l, c, x, hl, he⟩
    | directory => simp [hl, he]

theorem ne_nil_of_not_directory (h : t.get? l ≠ some .directory) : l ≠ [] := by
  rintro rfl
  exact h rfl

theorem readFile_eq_ok : t.readFile here path = .ok content ↔
    ∃ l x, locate t here path = .ok l ∧ t.get? l = some (.file content x) := by
  rw [readFile, refused_eq_ok, bind_eq_ok]
  constructor
  · rintro ⟨⟨l, e⟩, hf, h⟩
    obtain ⟨hl, he⟩ := find_eq_ok.mp hf
    cases e with
    | directory => cases h
    | file c x =>
      cases h
      exact ⟨l, x, hl, he⟩
  · rintro ⟨l, x, hl, he⟩
    exact ⟨_, find_eq_ok.mpr ⟨hl, he⟩, rfl⟩

/-- A written file; it is executable if it was. -/
def written (t : Tree) (l : Location) (content : Bytes) : Tree :=
  t.put l (.file content (match t.get? l with | some (.file _ x) => x | _ => false))

theorem writeFile_eq_ok : t.writeFile here path content = .ok t' ↔
    ∃ l, locate t here path = .ok l ∧ t.get? l ≠ some .directory ∧ t' = t.written l content := by
  rw [writeFile, refused_eq_ok, bind_eq_ok]
  refine exists_congr fun l => and_congr_right fun _ => ?_
  unfold written
  cases t.get? l with
  | none => simp [pure, Except.pure, eq_comm]
  | some e =>
    cases e with
    | directory => simp
    | file c x => simp [pure, Except.pure, eq_comm]

/-- Whether a file can be written is not a matter of what is in it. -/
theorem writeFile_eq_error {e : FileError} (h : t.writeFile here path content = .error e) (content' : Bytes) :
    t.writeFile here path content' = .error e := by
  unfold writeFile at h ⊢
  cases hl : t.locate here path with
  | error fault =>
    rw [hl] at h
    exact h
  | ok l =>
    rw [hl] at h
    dsimp only [bind, Except.bind] at h ⊢
    rcases hg : t.get? l with _ | (_ | _)
    · rw [hg] at h
      cases h
    · rw [hg] at h
      cases h
    · rw [hg] at h
      exact h

theorem removeFile_eq_ok : t.removeFile here path = .ok t' ↔
    ∃ l c x, locate t here path = .ok l ∧ t.get? l = some (.file c x) ∧ t' = t.erase l := by
  rw [removeFile, refused_eq_ok, bind_eq_ok]
  constructor
  · rintro ⟨⟨l, e⟩, hf, h⟩
    obtain ⟨hl, he⟩ := find_eq_ok.mp hf
    cases e with
    | directory => cases h
    | file c x =>
      cases h
      exact ⟨l, c, x, hl, he, rfl⟩
  · rintro ⟨l, c, x, hl, he, rfl⟩
    exact ⟨_, find_eq_ok.mpr ⟨hl, he⟩, rfl⟩

theorem makeDirectory_eq_ok : t.makeDirectory here path = .ok t' ↔
    ∃ l, locate t here path = .ok l ∧ t.get? l = none ∧ t' = t.put l .directory := by
  rw [makeDirectory, refused_eq_ok, bind_eq_ok]
  refine exists_congr fun l => and_congr_right fun _ => ?_
  cases t.get? l with
  | none => simp [pure, Except.pure, eq_comm]
  | some e => simp

theorem makeDirectory_keeps (h : t.makeDirectory here path = .ok t') (hk : t.get? k = some .directory) :
    t'.get? k = some .directory := by
  obtain ⟨l, -, hnone, rfl⟩ := makeDirectory_eq_ok.mp h
  have hd : t.get? l ≠ some .directory := by simp [hnone]
  rw [get?_put (ne_nil_of_not_directory hd), hk, ite_self]

theorem removeDirectory_eq_ok : t.removeDirectory here path = .ok t' ↔
    ∃ l, locate t here path = .ok l ∧ t.get? l = some .directory ∧ t' = t.eraseBelow l := by
  rw [removeDirectory, refused_eq_ok, bind_eq_ok]
  constructor
  · rintro ⟨⟨l, e⟩, hf, h⟩
    obtain ⟨hl, he⟩ := find_eq_ok.mp hf
    cases e with
    | file => cases h
    | directory =>
      cases h
      exact ⟨l, hl, he, rfl⟩
  · rintro ⟨l, hl, he, rfl⟩
    exact ⟨_, find_eq_ok.mpr ⟨hl, he⟩, rfl⟩

theorem moveFile_eq_ok {source name target : String} (h : t.moveFile here source name target = .ok t') :
    ∃ l e k, locate t here source = .ok l ∧ t.get? l = some e ∧
      locate t here (t.destination here name target) = .ok k ∧
      (t.isDirectory here target = true → t.get? k = none) ∧ t' = (t.erase l).put k e := by
  unfold moveFile at h
  dsimp only at h
  split at h
  · cases h
  · next hfree =>
    split at h
    · cases h
    · next l e hf =>
      obtain ⟨hl, he⟩ := find_eq_ok.mp hf
      split at h
      · cases h
      · next k hk =>
        cases h
        refine ⟨l, e, k, hl, he, hk, fun hd => ?_, rfl⟩
        cases hg : t.get? k with
        | none => rfl
        | some e' =>
          have hfind := find_eq_ok.mpr ⟨hk, hg⟩
          refine absurd ⟨hd, ?_⟩ hfree
          unfold entry?
          rw [hfind]
          rfl

/-- A moved file is not put where a directory is. -/
theorem not_directory_of_free {name target : String}
    (hk : t.locate here (t.destination here name target) = .ok k)
    (hfree : t.isDirectory here target = true → t.get? k = none) : t.get? k ≠ some .directory := by
  by_cases hd : t.isDirectory here target = true
  · simp [hfree hd]
  · intro hkd
    rw [destination, if_neg hd] at hk
    exact hd (isDirectory_eq_true.mpr ⟨k, hk, hkd⟩)

/-- Where there is no directory, a moved file takes the place of what is there. -/
theorem moveFile_replaces {source name target : String} {e : Entry} (hs : locate t here source = .ok l)
    (he : t.get? l = some e) (hk : locate t here target = .ok k) (hd : t.get? k ≠ some .directory) :
    t.moveFile here source name target = .ok ((t.erase l).put k e) := by
  have hdir : t.isDirectory here target = false := by
    rw [Bool.eq_false_iff, ne_eq, isDirectory_eq_true]
    rintro ⟨k', hk', hd'⟩
    cases hk.symm.trans hk'
    exact hd hd'
  unfold moveFile destination
  rw [hdir]
  simp only [Bool.false_eq_true, false_and, if_false, find_eq_ok.mpr ⟨hs, he⟩, hk]

/-! ## Views -/

/-- Two trees that hold the same files and directories. -/
def Same (t t' : Tree) : Prop := ∀ l, t.get? l = t'.get? l

namespace Same

theorem refl (t : Tree) : t.Same t := fun _ => rfl

theorem trans {t'' : Tree} (h : t.Same t') (h' : t'.Same t'') : t.Same t'' := fun l => (h l).trans (h' l)

theorem walk (h : t.Same t') : ∀ (l : Location) (names : List String), t.walk l names = t'.walk l names
  | _, [] => rfl
  | l, name :: names => by
    have hstep : t.step l name = t'.step l name := by
      unfold Tree.step needDirectory
      rw [h l]
    rw [Tree.walk, Tree.walk, hstep]
    cases t'.step l name with
    | error e => rfl
    | ok m => exact walk h m names

theorem locate (h : t.Same t') (here : Location) (path : String) : t.locate here path = t'.locate here path := by
  unfold Tree.locate
  split
  · rfl
  · exact h.walk _ _
  · exact h.walk _ _

theorem find (h : t.Same t') (here : Location) (path : String) : t.find here path = t'.find here path := by
  unfold Tree.find
  rw [h.locate]
  cases t'.locate here path with
  | error e => rfl
  | ok l =>
    dsimp only [bind, Except.bind]
    rw [h l]

theorem readFile (h : t.Same t') (here : Location) (path : String) :
    t.readFile here path = t'.readFile here path := by
  unfold Tree.readFile
  rw [h.find]

theorem writeFile {u u' : Tree} (h : t.Same t') (hu : t.writeFile here path content = .ok u)
    (hu' : t'.writeFile here path content = .ok u') : u.Same u' := by
  obtain ⟨l, hl, hd, rfl⟩ := writeFile_eq_ok.mp hu
  obtain ⟨l', hl', -, rfl⟩ := writeFile_eq_ok.mp hu'
  rw [h.locate, hl', Except.ok.injEq] at hl
  subst hl
  have hne := ne_nil_of_not_directory hd
  intro k
  unfold written
  rw [get?_put hne, get?_put hne, h, h]

end Same

/-- A tree that has this at a location, and elsewhere what another one has. -/
def SetAt (t : Tree) (l : Location) (e : Option Entry) (t' : Tree) : Prop :=
  ∀ m, t'.get? m = if m = l then e else t.get? m

namespace SetAt

variable {e : Option Entry}

theorem there (h : t.SetAt l e t') : t'.get? l = e := by
  rw [h, if_pos rfl]

theorem elsewhere (h : t.SetAt l e t') (hk : k ≠ l) : t'.get? k = t.get? k := by
  rw [h, if_neg hk]

theorem of_eq (h : t.get? l = e) : t.SetAt l e t := by
  intro m
  split
  · next hm => rw [hm, h]
  · rfl

end SetAt

end ShaderBundle.Tree
