import Mathlib.Logic.Function.Basic
import ShaderBundle.Proofs.Files.Scratch

/-!
# Files added to a folder

A folder may hold anything. What is followed here are files that come and go under names that are free in it: they
are a map from names to contents, and reading, writing and removing them by their paths are look-ups and updates
of this map.

* `Folder`: a path leads to a directory.
* `Adds`: a tree with some files more than the first one has.
* `Folder.readFile`, `Folder.writeFile`, `Folder.removeFile_ok`, `Folder.writeOutput`: the operations.
-/

namespace ShaderBundle.Tree

variable {t0 t t' : Tree} {here s : Location} {p : Path} {n : String} {content : Bytes}

/-- The contents of files by their names. -/
abbrev Files := String → Option Bytes

def noFiles : Files := fun _ => none

/-- What reading the file with this name gives, in a folder with this path. -/
def Files.read (files : Files) (p : Path) (n : String) : Except FileError Bytes :=
  match files n with
  | some content => .ok content
  | none => .error ⟨.missing, (p.child n).text⟩

theorem Files.read_eq_ok {files : Files} : files.read p n = .ok content ↔ files n = some content := by
  unfold Files.read
  cases files n <;> simp

/-- The path leads to a directory. -/
structure Folder (t : Tree) (here : Location) (p : Path) (s : Location) : Prop where
  proper : p.Proper
  leads : t.walk (p.start here) p.parts = .ok s
  directory : t.get? s = some .directory

theorem Scratch.folder (hs : Scratch t here p s) : Folder t here p s := ⟨hs.proper, hs.leads, hs.directory⟩

/-- The first tree with these files added in the directory, under names that are free there. -/
structure Adds (t0 : Tree) (s : Location) (files : Files) (t : Tree) : Prop where
  free : ∀ n, files n ≠ none → t0.get? (s ++ [n]) = none
  added : ∀ n, files n ≠ none → t.get? (s ++ [n]) = (files n).map (Entry.file · false)
  others : ∀ l, (∀ n, files n ≠ none → l ≠ s ++ [n]) → t.get? l = t0.get? l

variable {files : Files}

theorem adds_none : Adds t0 s noFiles t ↔ t0.Same t := by
  constructor
  · intro h l
    exact (h.others l fun n hn => absurd rfl hn).symm
  · intro h
    exact ⟨fun n hn => absurd rfl hn, fun n hn => absurd rfl hn, fun l _ => (h l).symm⟩

namespace Adds

variable (h : Adds t0 s files t)
include h

/-- Under a name that was free, there is what has been added. -/
theorem get?_free (hn : t0.get? (s ++ [n]) = none) : t.get? (s ++ [n]) = (files n).map (Entry.file · false) := by
  by_cases hf : files n = none
  · rw [h.others, hn, hf]
    · rfl
    · rintro m hm he
      obtain rfl : n = m := by simpa using he
      exact hm hf
  · exact h.added n hf

theorem directory_kept {l : Location} (hl : t0.get? l = some .directory) : t.get? l = some .directory := by
  rw [h.others, hl]
  rintro n hn rfl
  rw [h.free n hn] at hl
  cases hl

theorem same (hs : t.Same t') : Adds t0 s files t' :=
  ⟨h.free, fun n hn => (hs _).symm.trans (h.added n hn), fun l hl => (hs l).symm.trans (h.others l hl)⟩

/-- A change of one file. -/
theorem update (hn : t0.get? (s ++ [n]) = none) {e : Option Bytes}
    (ht : ∀ l, t'.get? l = if l = s ++ [n] then e.map (Entry.file · false) else t.get? l) :
    Adds t0 s (Function.update files n e) t' := by
  constructor
  · intro m hm
    by_cases he : m = n
    · rw [he]
      exact hn
    · rw [Function.update_of_ne he] at hm
      exact h.free m hm
  · intro m hm
    rw [ht]
    by_cases he : m = n
    · rw [he, if_pos rfl, Function.update_self]
    · rw [Function.update_of_ne he] at hm ⊢
      rw [if_neg (by simpa using he)]
      exact h.added m hm
  · intro l hl
    rw [ht]
    by_cases he : l = s ++ [n]
    · -- then nothing is there any more, as there was nothing at first
      subst he
      have hnone : e = none := by
        by_contra hne
        exact hl n (by rwa [Function.update_self]) rfl
      rw [if_pos rfl, hnone, hn]
      rfl
    · rw [if_neg he]
      refine h.others l ?_
      rintro m hm rfl
      have hmn : m ≠ n := fun hmn => he (by rw [hmn])
      exact hl m (by rwa [Function.update_of_ne hmn]) rfl

end Adds

namespace Folder

variable (hd : Folder t0 here p s) (h : Adds t0 s files t)
include hd h

theorem adds : Folder t here p s :=
  ⟨hd.proper, walk_mono (fun _ => h.directory_kept) hd.leads, h.directory_kept hd.directory⟩

theorem locate_child (hn : IsName n) : t.locate here (p.child n).text = .ok (s ++ [n]) := by
  obtain ⟨hproper, hleads, hdirectory⟩ := hd.adds h
  rw [locate_text (hproper.child hn) (by simp [Path.child])]
  exact walk_append.mpr ⟨s, hleads, walk_cons_eq_ok.mpr ⟨_, step_name hdirectory hn, rfl⟩⟩

variable (hn : IsName n) (hfree : t0.get? (s ++ [n]) = none)
include hn hfree

theorem readFile_eq_ok : t.readFile here (p.child n).text = .ok content ↔ files n = some content := by
  rw [Tree.readFile_eq_ok, hd.locate_child h hn]
  have hfile := h.get?_free hfree
  constructor
  · rintro ⟨l, x, hl, hf⟩
    cases hl
    rw [hfile] at hf
    cases hc : files n with
    | none =>
      rw [hc] at hf
      cases hf
    | some bytes =>
      rw [hc] at hf
      cases hf
      rfl
  · intro hc
    exact ⟨_, false, rfl, by rw [hfile, hc]; rfl⟩

/-- What has not been added is missing. -/
theorem readFile_missing (hnone : files n = none) :
    t.readFile here (p.child n).text = .error ⟨.missing, (p.child n).text⟩ := by
  have hfile := h.get?_free hfree
  rw [hnone] at hfile
  have hfind : t.find here (p.child n).text = .error .missing := by
    rw [find, hd.locate_child h hn]
    dsimp only [bind, Except.bind]
    rw [hfile]
    rfl
  rw [readFile, hfind]
  rfl

theorem readFile : t.readFile here (p.child n).text = files.read p n := by
  unfold Files.read
  cases hc : files n with
  | some content => exact (hd.readFile_eq_ok h hn hfree).mpr hc
  | none => exact hd.readFile_missing h hn hfree hc

theorem writeFile (content : Bytes) : ∃ t', t.writeFile here (p.child n).text content = .ok t' ∧
    Adds t0 s (Function.update files n (some content)) t' := by
  have hfile := h.get?_free hfree
  have hdir : t.get? (s ++ [n]) ≠ some .directory := by
    rw [hfile]
    cases files n <;> simp
  refine ⟨_, writeFile_eq_ok.mpr ⟨_, hd.locate_child h hn, hdir, rfl⟩, h.update hfree fun l => ?_⟩
  unfold written
  rw [get?_put (by simp), hfile]
  cases files n <;> rfl

theorem removeFile_ok (hr : t.removeFile here (p.child n).text = .ok t') :
    Adds t0 s (Function.update files n none) t' := by
  obtain ⟨l, c, x, hl, -, rfl⟩ := removeFile_eq_ok.mp hr
  rw [hd.locate_child h hn, Except.ok.injEq] at hl
  subst hl
  exact h.update hfree fun l => get?_erase (by simp) l

/-- Only a file that is not there is not removed. -/
theorem removeFile_error {e : FileError} (hr : t.removeFile here (p.child n).text = .error e) : files n = none := by
  cases hc : files n with
  | none => rfl
  | some bytes =>
    have hfile := h.get?_free hfree
    rw [hc] at hfile
    rw [removeFile_eq_ok.mpr ⟨_, _, _, hd.locate_child h hn, hfile, rfl⟩] at hr
    cases hr

end Folder

end ShaderBundle.Tree
