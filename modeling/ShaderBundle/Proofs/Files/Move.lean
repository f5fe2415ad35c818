import ShaderBundle.Proofs.Files.Scratch

/-!
# Moving a file out of a scratch directory

A file that is moved to a path replaces what is there, or goes into it if it is a directory. What is at the path
is told by the tree from before the scratch directory was made: the path cannot lead to the scratch directory,
as the name is taken there.

* `Working`: a tree, a new directory in it, and what has been done in that directory.
* `Working.destination_directory`, `Working.destination_file`: where a moved file goes.
* `Working.moveFile_file`: where it can be moved.
* `Working.moveFile`, `Working.writeFile`: all that has changed once the directory is removed.
* `Placed`, `Working.placed`: where a file is that has been moved to a path.
* `Working.placed_part`: or of which a part has been copied there.
-/

namespace ShaderBundle.Tree

variable {t0 t1 t t' : Tree} {here s k l : Location} {p q : Path} {n : String}

theorem locate_inside (hq : q.Proper) (hn : IsName n) (hl : t.locate here (q.child n).text = .ok l)
    (hk : t.locate here (inside (q.child n).text n) = .ok k) : k = l ++ [n] := by
  have hchild := hq.child hn
  rw [locate_text hchild (by simp [Path.child])] at hl
  rw [Path.inside_text q hn n, locate_text (hchild.child hn) (by simp [Path.child])] at hk
  obtain ⟨m, hm, hlast⟩ := walk_append.mp hk
  have hml : m = l := Except.ok.inj (hm.symm.trans hl)
  obtain ⟨m', hstep, hm'⟩ := walk_cons_eq_ok.mp hlast
  cases hm'
  rw [step_name (step_eq_ok.mp hstep).1 hn] at hstep
  rw [← Except.ok.inj hstep, hml]

/-- The directory that a path with a last name leads through. -/
theorem directory_of_locate (hq : q.Proper) (hn : IsName n) (hl : t.locate here (q.child n).text = .ok l) :
    ∃ m, t.get? m = some .directory ∧ l = m ++ [n] := by
  rw [locate_text (hq.child hn) (by simp [Path.child])] at hl
  obtain ⟨m, -, hlast⟩ := walk_append.mp hl
  obtain ⟨k, hstep, hk⟩ := walk_cons_eq_ok.mp hlast
  cases hk
  have hm := (step_eq_ok.mp hstep).1
  rw [step_name hm hn, Except.ok.injEq] at hstep
  exact ⟨m, hm, hstep.symm⟩

/-- A new directory in a tree, and a tree that differs from this one in the directory only. -/
structure Working (t0 t1 : Tree) (here : Location) (p : Path) (s : Location) (t : Tree) : Prop where
  wellFormed : t0.WellFormed
  absent : t0.get? s = none
  outside : ∀ l, ¬s <+: l → t1.get? l = t0.get? l
  scratch : Scratch t1 here p s
  within : Within t1 s t

/-- A file has been put at a path: there, or into the directory that is there. -/
structure Placed (t t' : Tree) (here : Location) (target name : String) (file : Entry) (k : Location) : Prop where
  others : ∀ l, l ≠ k → t'.get? l = t.get? l
  isFile : t'.isFile here target = true ↔ ∃ l, t.locate here target = .ok l ∧ t.get? l ≠ some .directory
  replaced : ∀ l, t.locate here target = .ok l → t.get? l ≠ some .directory → k = l ∧ t'.get? k = some file
  taken_in : ∀ l, t.locate here target = .ok l → t.get? l = some .directory →
    k = l ++ [name] ∧ t.get? k = none ∧ t'.get? k = some file

namespace Working

variable (h : Working t0 t1 here p s t)
include h

theorem get?_outside (hl : ¬s <+: l) : t.get? l = t0.get? l := by
  rw [h.within.outside l hl, h.outside l hl]

theorem get?_below (hl : s <+: l) : t0.get? l = none := by
  obtain ⟨names, rfl⟩ := hl
  exact h.wellFormed.absent_below h.absent names

theorem directory_outside (hl : t0.get? l = some .directory) : ¬s <+: l := by
  intro hs
  rw [h.get?_below hs] at hl
  cases hl

theorem directory_kept (hl : t0.get? l = some .directory) : t.get? l = some .directory := by
  rw [h.get?_outside (h.directory_outside hl)]
  exact hl

/-- A directory takes a moved file in. -/
theorem destination_directory (hq : q.Proper) (hn : IsName n) (hl : t0.locate here (q.child n).text = .ok l)
    (hd : t0.get? l = some .directory) (hk : t.locate here (t.destination here n (q.child n).text) = .ok k)
    (hfree : t.isDirectory here (q.child n).text = true → t.get? k = none) : k = l ++ [n] ∧ ¬s <+: k := by
  have hl' := locate_mono (fun _ => h.directory_kept) hl
  have hdir := isDirectory_eq_true.mpr ⟨l, hl', h.directory_kept hd⟩
  rw [destination, if_pos hdir] at hk
  have hkl := locate_inside hq hn hl' hk
  refine ⟨hkl, fun hs => ?_⟩
  rw [hkl] at hs
  rcases List.prefix_concat_iff.mp hs with rfl | hs
  · have hnone := hfree hdir
    rw [hkl, h.within.directory] at hnone
    cases hnone
  · exact h.directory_outside hd hs

/-- A path that leads below the scratch directory leads to it, as there was nothing before. -/
theorem eq_of_below {path : String} (hl : t0.locate here path = .ok l) (hs : s <+: l) : l = s := by
  obtain ⟨hstart, hwalk⟩ := walk_parts_of_locate hl
  obtain ⟨m, n, rfl, hm, -⟩ := h.wellFormed.walk_absent (Path.proper_ofText _) hstart hwalk (h.get?_below hs)
  rcases List.prefix_concat_iff.mp hs with rfl | hs
  · rfl
  · exact absurd hs (h.directory_outside hm)

/-- What is not a directory is replaced by a moved file. -/
theorem destination_file (hq : q.Proper) (hn : IsName n) (hl : t0.locate here (q.child n).text = .ok l)
    (hd : t0.get? l ≠ some .directory) (hk : t.locate here (t.destination here n (q.child n).text) = .ok k)
    (hfree : t.isDirectory here (q.child n).text = true → t.get? k = none)
    (hfile : t.get? (s ++ [n]) ≠ none) : k = l ∧ ¬s <+: k := by
  have hl' := locate_mono (fun _ => h.directory_kept) hl
  have hls : ¬s <+: l := by
    intro hs
    -- the path would have to be that of the scratch directory, in which the name is taken
    obtain rfl := h.eq_of_below hl hs
    have hdir := isDirectory_eq_true.mpr ⟨_, hl', h.within.directory⟩
    rw [destination, if_pos hdir] at hk
    rw [locate_inside hq hn hl' hk] at hfree
    exact hfile (hfree hdir)
  have hdir : ¬t.isDirectory here (q.child n).text = true := by
    intro hdir
    obtain ⟨l', hll, hdl⟩ := isDirectory_eq_true.mp hdir
    rw [hl', Except.ok.injEq] at hll
    rw [← hll, h.get?_outside hls] at hdl
    exact hd hdl
  rw [destination, if_neg hdir, hl', Except.ok.injEq] at hk
  subst hk
  exact ⟨rfl, hls⟩

/-- A file can be moved to where there is no directory. -/
theorem moveFile_file {target : String} {e : Entry} (hn : IsName n) (hfile : t.get? (s ++ [n]) = some e)
    (hl : t0.locate here target = .ok l) (hd : t0.get? l ≠ some .directory) (hls : l ≠ s) :
    t.moveFile here (p.child n).text n target = .ok ((t.erase (s ++ [n])).put l e) := by
  have hout : ¬s <+: l := fun hs => hls (h.eq_of_below hl hs)
  have hl' := locate_mono (fun _ => h.directory_kept) hl
  have hd' : t.get? l ≠ some .directory := by rwa [h.get?_outside hout]
  exact moveFile_replaces (h.scratch.locate_child h.within hn) hfile hl' hd'

/-- Where the tree differs in the directory and in one file, the file is all that is new once the directory is
removed, if the file is not in it. -/
theorem remove_put {e : Entry} (hkd : t.get? k ≠ some .directory)
    (hdirectory : ∀ m, t.get? m = some .directory → t'.get? m = some .directory) (hput : t'.get? k = some e)
    (hothers : ∀ m, m ≠ k → ¬s <+: m → t'.get? m = t.get? m) :
    ∃ t'', t'.removeDirectory here p.text = .ok t'' ∧
      ∀ l, t''.get? l = if l = k ∧ ¬s <+: k then some e else t0.get? l := by
  have hs0 : s ≠ [] := by
    rintro rfl
    have := h.absent
    cases this
  have hleads := walk_mono hdirectory (h.scratch.walk_within h.within)
  rw [← locate_text h.scratch.proper h.scratch.not_root] at hleads
  have hremove := removeDirectory_eq_ok.mpr ⟨s, hleads, hdirectory s h.within.directory, rfl⟩
  refine ⟨_, hremove, fun m => ?_⟩
  rw [get?_eraseBelow hs0]
  by_cases hm : s <+: m
  · rw [if_pos (List.isPrefixOf_iff_prefix.mpr hm), if_neg, h.get?_below hm]
    rintro ⟨rfl, hout⟩
    exact hout hm
  · rw [if_neg fun hp => hm (List.isPrefixOf_iff_prefix.mp hp)]
    by_cases hmk : m = k
    · rw [if_pos ⟨hmk, hmk ▸ hm⟩, hmk, hput]
    · rw [if_neg fun he => hmk he.1, hothers m hmk hm, h.get?_outside hm]

/-- Once a file is moved away and the directory is removed, the file is all that is new, if it has not been
moved into the directory. -/
theorem moveFile {target : String} {content : Bytes} {x : Bool} (hn : IsName n)
    (hfile : t.get? (s ++ [n]) = some (.file content x))
    (hmove : t.moveFile here (p.child n).text n target = .ok t') :
    ∃ k, t.locate here (t.destination here n target) = .ok k ∧
      (t.isDirectory here target = true → t.get? k = none) ∧ t.get? k ≠ some .directory ∧
      ∃ t'', t'.removeDirectory here p.text = .ok t'' ∧
        ∀ l, t''.get? l = if l = k ∧ ¬s <+: k then some (.file content x) else t0.get? l := by
  obtain ⟨l, e, k, hl, he, hk, hfree, rfl⟩ := moveFile_eq_ok hmove
  rw [h.scratch.locate_child h.within hn, Except.ok.injEq] at hl
  subst hl
  rw [hfile, Option.some.injEq] at he
  subst he
  have hkd := not_directory_of_free hk hfree
  have hview (m : Location) : ((t.erase (s ++ [n])).put k (.file content x)).get? m =
      if m = k then some (.file content x) else if m = s ++ [n] then none else t.get? m := by
    rw [get?_put (ne_nil_of_not_directory hkd), get?_erase (by simp)]
  refine ⟨k, hk, hfree, hkd, h.remove_put hkd (fun m hm => ?_) (by rw [hview, if_pos rfl]) fun m hmk hm => ?_⟩
  · rw [hview, if_neg, if_neg, hm]
    · rintro rfl
      rw [hfile] at hm
      cases hm
    · rintro rfl
      exact hkd hm
  · rw [hview, if_neg hmk, if_neg]
    rintro rfl
    exact hm (List.prefix_append s [n])

/-- Once a part of a file is written elsewhere and the directory is removed, that part is all that is new. -/
theorem writeFile {target : String} {content : Bytes} (hw : t.writeFile here target content = .ok t') :
    ∃ k x t'', t'.removeDirectory here p.text = .ok t'' ∧ t.locate here target = .ok k ∧
      ∀ l, t''.get? l = if l = k ∧ ¬s <+: k then some (.file content x) else t0.get? l := by
  obtain ⟨k, hk, hkd, rfl⟩ := writeFile_eq_ok.mp hw
  have hview (m : Location) : (t.written k content).get? m = if m = k then _ else t.get? m :=
    get?_put (ne_nil_of_not_directory hkd) _ m
  have hdirectory (m : Location) (hm : t.get? m = some .directory) :
      (t.written k content).get? m = some .directory := by
    rw [hview, if_neg, hm]
    rintro rfl
    exact hkd hm
  obtain ⟨t'', hremove, hleft⟩ := h.remove_put hkd hdirectory (by rw [hview, if_pos rfl])
    fun m hmk _ => by rw [hview, if_neg hmk]
  exact ⟨k, _, t'', hremove, hk, hleft⟩

theorem directory_of_view {t'' : Tree} {content : Bytes} {x : Bool} (hkd : t.get? k ≠ some .directory)
    (hview : ∀ l, t''.get? l = if l = k ∧ ¬s <+: k then some (.file content x) else t0.get? l) (l : Location) :
    t''.get? l = some .directory ↔ t0.get? l = some .directory := by
  rw [hview]
  split
  · next hl =>
    obtain ⟨rfl, hout⟩ := hl
    rw [h.get?_outside hout] at hkd
    simp [hkd]
  · rfl

/-- Once the directory is removed, what is where a file would be moved to is at the path or in the directory there. -/
theorem placed_of_view {t'' : Tree} {content : Bytes} {x : Bool} (hq : q.Proper) (hn : IsName n)
    (hk : t.locate here (t.destination here n (q.child n).text) = .ok k)
    (hfree : t.isDirectory here (q.child n).text = true → t.get? k = none) (hkd : t.get? k ≠ some .directory)
    (hfile : t.get? (s ++ [n]) ≠ none)
    (hview : ∀ l, t''.get? l = if l = k ∧ ¬s <+: k then some (.file content x) else t0.get? l) :
    Placed t0 t'' here (q.child n).text n (.file content x) k := by
  have hdirectory := h.directory_of_view hkd hview
  have hreplaced (l : Location) (hl : t0.locate here (q.child n).text = .ok l) (hd : t0.get? l ≠ some .directory) :
      k = l ∧ t''.get? k = some (.file content x) := by
    obtain ⟨hkl, hout⟩ := h.destination_file hq hn hl hd hk hfree hfile
    exact ⟨hkl, by rw [hview, if_pos ⟨rfl, hout⟩]⟩
  refine ⟨?_, ?_, hreplaced, ?_⟩
  · intro l hl
    rw [hview, if_neg fun he => hl he.1]
  · rw [isFile_eq_true]
    constructor
    · rintro ⟨l, c, x', hl, hfile'⟩
      refine ⟨l, locate_mono (fun m hm => (hdirectory m).mp hm) hl, fun hd => ?_⟩
      rw [(hdirectory l).mpr hd] at hfile'
      cases hfile'
    · rintro ⟨l, hl, hd⟩
      obtain ⟨rfl, hnew⟩ := hreplaced l hl hd
      exact ⟨k, content, x, locate_mono (fun m hm => (hdirectory m).mpr hm) hl, hnew⟩
  · intro l hl hd
    obtain ⟨hkl, hout⟩ := h.destination_directory hq hn hl hd hk hfree
    have hdir := isDirectory_eq_true.mpr ⟨l, locate_mono (fun _ => h.directory_kept) hl, h.directory_kept hd⟩
    refine ⟨hkl, ?_, by rw [hview, if_pos ⟨rfl, hout⟩]⟩
    rw [← h.get?_outside hout]
    exact hfree hdir

theorem placed {content : Bytes} {x : Bool} (hq : q.Proper) (hn : IsName n)
    (hfile : t.get? (s ++ [n]) = some (.file content x))
    (hmove : t.moveFile here (p.child n).text n (q.child n).text = .ok t') :
    ∃ t'' k, t'.removeDirectory here p.text = .ok t'' ∧
      Placed t0 t'' here (q.child n).text n (.file content x) k := by
  obtain ⟨k, hk, hfree, hkd, t'', hremove, hview⟩ := h.moveFile hn hfile hmove
  exact ⟨t'', k, hremove, h.placed_of_view hq hn hk hfree hkd (by simp [hfile]) hview⟩

/-- Where a file could be moved to, a part of it is as the file would be. -/
theorem placed_part {moved : Tree} {content : Bytes} (hq : q.Proper) (hn : IsName n)
    (hfile : t.get? (s ++ [n]) ≠ none) (hmove : t.moveFile here (p.child n).text n (q.child n).text = .ok moved)
    (hw : t.writeFile here (t.destination here n (q.child n).text) content = .ok t') :
    ∃ t'' x k, t'.removeDirectory here p.text = .ok t'' ∧ t''.get? s = none ∧
      (∀ m, t0.get? m = some .directory → t''.get? m = some .directory) ∧
      Placed t0 t'' here (q.child n).text n (.file content x) k := by
  obtain ⟨l, e, k, -, -, hk, hfree, -⟩ := moveFile_eq_ok hmove
  obtain ⟨k', x, t'', hremove, hk', hview⟩ := h.writeFile hw
  cases hk.symm.trans hk'
  have hkd := not_directory_of_free hk hfree
  refine ⟨t'', x, k, hremove, ?_, fun m => (h.directory_of_view hkd hview m).mpr,
    h.placed_of_view hq hn hk hfree hkd hfile hview⟩
  rw [hview, if_neg, h.absent]
  rintro ⟨rfl, hout⟩
  exact hout List.prefix_rfl

end Working

end ShaderBundle.Tree
