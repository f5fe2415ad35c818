import ShaderBundle.Action
import ShaderBundle.Proofs.Files.Folder

/-!
# Looking up tools

A tool is found by its name among directories, or by its path. What is found depends on directories and on executable
files, so neither a file that is not executable nor one that is at another place changes it.

* `SameDirectories`: trees with the same directories; their paths lead to the same locations.
* `isExecutable_congr`, `findTool?_congr`: what looking up depends on.
* `findTool?_elsewhere`: a tool stays if no file that has changed is found.
-/

namespace ShaderBundle

open ShaderBundle.Tree

variable {h : Host} {t t' : Tree} {here l : Location} {path name tool : String}

/-! ## Executables -/

namespace Tree

/-- The same directories, whatever files there are. -/
def SameDirectories (t t' : Tree) : Prop := ∀ l, t.get? l = some .directory ↔ t'.get? l = some .directory

theorem SameDirectories.locate (h : SameDirectories t t') : t.locate here path = .ok l ↔ t'.locate here path = .ok l :=
  ⟨locate_mono fun m => (h m).mp, locate_mono fun m => (h m).mpr⟩

theorem SameDirectories.isDirectory (h : SameDirectories t t') :
    t.isDirectory here path = true ↔ t'.isDirectory here path = true := by
  rw [isDirectory_eq_true, isDirectory_eq_true]
  exact exists_congr fun l => and_congr h.locate (h l)

/-- A change of a location at which there is no directory. -/
theorem SameDirectories.of_change (hl : t.get? l ≠ some .directory) (hl' : t'.get? l ≠ some .directory)
    (h : ∀ m, m ≠ l → t.get? m = t'.get? m) : SameDirectories t t' := by
  intro m
  by_cases hm : m = l
  · rw [hm]
    exact iff_of_false hl hl'
  · rw [h m hm]

/-- Where files have been added, there was nothing. -/
theorem Adds.eq_or_added {s : Location} {files : Files} (ha : Adds t s files t') (m : Location) :
    t.get? m = t'.get? m ∨ t.get? m = none ∧ ∃ content, t'.get? m = some (.file content false) := by
  by_cases hm : ∃ n, files n ≠ none ∧ m = s ++ [n]
  · obtain ⟨n, hn, rfl⟩ := hm
    obtain ⟨content, hcontent⟩ := Option.ne_none_iff_exists'.mp hn
    exact .inr ⟨ha.free n hn, content, by rw [ha.added n hn, hcontent]; rfl⟩
  · exact .inl (ha.others m fun n hn he => hm ⟨n, hn, he⟩).symm

theorem SameDirectories.adds {s : Location} {files : Files} (ha : Adds t s files t') : SameDirectories t t' := by
  intro m
  rcases ha.eq_or_added m with heq | ⟨hnone, content, hfile⟩
  · rw [heq]
  · rw [hnone, hfile]
    exact iff_of_false nofun nofun

theorem isExecutable_eq_true :
    t.isExecutable here path = true ↔ ∃ l c, t.locate here path = .ok l ∧ t.get? l = some (.file c true) := by
  unfold isExecutable
  unfold entry?
  cases hf : t.find here path with
  | error e =>
    simp only [Bool.false_eq_true, false_iff]
    rintro ⟨l, c, hl, hd⟩
    rw [find_eq_ok.mpr ⟨hl, hd⟩] at hf
    cases hf
  | ok found =>
    obtain ⟨l, e⟩ := found
    obtain ⟨hl, he⟩ := find_eq_ok.mp hf
    cases e with
    | file c x => simp [hl, he]
    | directory => simp [hl, he]

theorem isExecutable_congr (hd : SameDirectories t t')
    (hx : ∀ l, t.locate here path = .ok l →
      ((∃ c, t.get? l = some (.file c true)) ↔ ∃ c, t'.get? l = some (.file c true))) :
    t.isExecutable here path = t'.isExecutable here path := by
  rw [Bool.eq_iff_iff, isExecutable_eq_true, isExecutable_eq_true]
  refine exists_congr fun l => ?_
  rw [exists_and_left, exists_and_left, ← hd.locate]
  exact and_congr_right (hx l)

/-- Files that are added are not executable. -/
theorem isExecutable_adds {s : Location} {files : Files} (ha : Adds t s files t') :
    t.isExecutable here path = t'.isExecutable here path := by
  refine isExecutable_congr (.adds ha) fun m _ => ?_
  rcases ha.eq_or_added m with heq | ⟨hnone, content, hfile⟩
  · rw [heq]
  · rw [hnone, hfile]
    exact iff_of_false nofun nofun

/-- Another place than that of a change. -/
theorem isExecutable_elsewhere (hd : SameDirectories t t') (h : ∀ m, m ≠ l → t.get? m = t'.get? m)
    (hpath : t.locate here path ≠ .ok l) : t.isExecutable here path = t'.isExecutable here path := by
  refine isExecutable_congr hd fun m hm => ?_
  rw [h m]
  rintro rfl
  exact hpath hm

end Tree

/-! ## Tools -/

theorem findTool?_congr (he : ∀ path, t.isExecutable h.here path = t'.isExecutable h.here path) (name : String) :
    h.findTool? t name = h.findTool? t' name := by
  have hx : t.isExecutable h.here = t'.isExecutable h.here := funext he
  unfold Host.findTool?
  rw [hx]

/-- The first of some paths is the first by another test too, if each path that can be found passes both. -/
theorem find?_of_agree {p q : String → Bool} {path : String} {paths : List String} (hfirst : paths.find? p = some path)
    (hq : q path = true) (hp : ∀ path', paths.find? q = some path' → p path' = true) : paths.find? q = some path := by
  induction paths with
  | nil => cases hfirst
  | cons a paths ih =>
    by_cases ha : p a = true
    · rw [List.find?_cons_of_pos ha, Option.some.injEq] at hfirst
      rw [hfirst, List.find?_cons_of_pos hq]
    · have hqa : ¬q a = true := fun hqa => ha (hp a (List.find?_cons_of_pos hqa))
      rw [List.find?_cons_of_neg ha] at hfirst
      rw [List.find?_cons_of_neg hqa] at hp ⊢
      exact ih hfirst hp

/-- A tool is found again if a change is made at another place, and nothing that is there then is found. -/
theorem findTool?_elsewhere (hd : SameDirectories t t') (hsame : ∀ m, m ≠ l → t.get? m = t'.get? m)
    (hfind : h.findTool? t name = some tool) (htool : t.locate h.here tool ≠ .ok l)
    (hspared : ∀ tool', h.findTool? t' name = some tool' → t'.locate h.here tool' ≠ .ok l) :
    h.findTool? t' name = some tool := by
  have hagree {path : String} (hpath : t.locate h.here path ≠ .ok l) :=
    isExecutable_elsewhere hd hsame hpath
  unfold Host.findTool? at hfind hspared ⊢
  split at hfind
  · next hslash =>
    rw [if_pos hslash]
    split at hfind
    · next hx =>
      cases hfind
      rw [if_pos ((hagree htool).symm.trans hx)]
    · cases hfind
  · next hslash =>
    rw [if_neg hslash] at hspared ⊢
    refine find?_of_agree hfind ?_ fun path hpath => ?_
    · exact (hagree htool).symm.trans (List.find?_some hfind)
    · have helse : t.locate h.here path ≠ .ok l := fun hl => hspared path hpath (hd.locate.mp hl)
      exact (hagree helse).trans (List.find?_some hpath)

end ShaderBundle
