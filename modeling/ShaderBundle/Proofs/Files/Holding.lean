import ShaderBundle.Proofs.Files.Folder

/-!
# The files of a scratch directory

What a scratch directory holds, as a map from names to contents. Reading, writing and removing its files by
their paths are look-ups and updates of this map.

* `Holds`: a tree with these files in its scratch directory.
* `Scratch.holds_none`: with no files it is the tree of the beginning.
* `Holds.readFile`, `Holds.writeFile`, `Holds.removeFile`: the operations.
-/

namespace ShaderBundle.Tree

variable {t0 t t' : Tree} {here s : Location} {p : Path} {n m : String} {content : Bytes}

/-- A tree that differs from the first one by these files in the directory. -/
structure Holds (t0 : Tree) (s : Location) (files : Files) (t : Tree) : Prop where
  files : ∀ n, t.get? (s ++ [n]) = (files n).map (Entry.file · false)
  others : ∀ l, (∀ n, l ≠ s ++ [n]) → t.get? l = t0.get? l

variable {files : Files}

theorem Holds.same (h : Holds t0 s files t) (hs : t.Same t') : Holds t0 s files t' :=
  ⟨fun n => (hs _).symm.trans (h.files n), fun l hl => (hs l).symm.trans (h.others l hl)⟩

namespace Scratch

theorem free (hs : Scratch t0 here p s) (n : String) : t0.get? (s ++ [n]) = none :=
  hs.empty _ (List.prefix_append s [n]) (by simp)

/-- All names are free in a scratch directory, so it holds what has been added. -/
theorem holds_iff_adds (hs : Scratch t0 here p s) : Holds t0 s files t ↔ Adds t0 s files t := by
  constructor
  · intro h
    refine ⟨fun n _ => hs.free n, fun n _ => h.files n, fun l hl => ?_⟩
    by_cases hin : ∃ n, l = s ++ [n]
    · obtain ⟨n, rfl⟩ := hin
      have hnone : files n = none := by
        by_contra hn
        exact hl n hn rfl
      rw [h.files n, hs.free n, hnone]
      rfl
    · exact h.others l fun n hn => hin ⟨n, hn⟩
  · intro h
    exact ⟨fun n => h.get?_free (hs.free n), fun l hl => h.others l fun n _ => hl n⟩

theorem holds_none (hs : Scratch t0 here p s) : Holds t0 s noFiles t ↔ t0.Same t :=
  hs.holds_iff_adds.trans adds_none

variable (hs : Scratch t0 here p s) (h : Holds t0 s files t)
include hs h

theorem within_holds : Within t0 s t where
  directory := by
    rw [h.others s (by simp)]
    exact hs.directory
  outside l hl := by
    refine h.others l ?_
    rintro n rfl
    exact hl (List.prefix_append s [n])

variable (hn : IsName n)
include hn

theorem readFile_eq_ok : t.readFile here (p.child n).text = .ok content ↔ files n = some content :=
  hs.folder.readFile_eq_ok (hs.holds_iff_adds.mp h) hn (hs.free n)

theorem writeFile (content : Bytes) : ∃ t', t.writeFile here (p.child n).text content = .ok t' ∧
    Holds t0 s (Function.update files n (some content)) t' := by
  obtain ⟨t', ht, hadds⟩ := hs.folder.writeFile (hs.holds_iff_adds.mp h) hn (hs.free n) content
  exact ⟨t', ht, hs.holds_iff_adds.mpr hadds⟩

theorem removeFile_ok (hr : t.removeFile here (p.child n).text = .ok t') :
    Holds t0 s (Function.update files n none) t' :=
  hs.holds_iff_adds.mpr (hs.folder.removeFile_ok (hs.holds_iff_adds.mp h) hn (hs.free n) hr)

/-- Only a file that is not there is not removed. -/
theorem removeFile_error {e : FileError} (hr : t.removeFile here (p.child n).text = .error e) :
    files n = none :=
  hs.folder.removeFile_error (hs.holds_iff_adds.mp h) hn (hs.free n) hr

end Scratch

end ShaderBundle.Tree
