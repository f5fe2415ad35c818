import Mathlib.Data.List.Basic
import ShaderBundle.Proofs.Files.Folder
import ShaderBundle.Proofs.Files.Listing

/-!
# Files below a directory

A path that goes down from a directory, name by name, leads to the file below it with these names, in every tree that
has the directory and the file.

* `Path.ofText_text`: a path is read back from its text.
* `locate_inside_iff`, `locate_foldl_inside`: going down from a directory.
* `readFile_foldl_inside`, `readFile_beside`: reading a file below it, and one by its name from the directory above.
-/

namespace ShaderBundle

/-! ## Texts of paths -/

namespace Text

theorem splitOn_slash_append (s n : String) (hn : '/' ∉ n.toList) :
    splitOn '/' (s ++ "/" ++ n) = splitOn '/' s ++ [n] := by
  have htext : (s ++ "/" ++ n).toList = s.toList ++ '/' :: n.toList := by simp
  rw [splitOn, htext, splitAt_append, splitAt_of_not_mem hn, List.map_append]
  simp [splitOn]

theorem splitOn_ne_nil (c : Char) (s : String) : splitOn c s ≠ [] :=
  fun h => splitAt_ne_nil c s.toList (List.map_eq_nil_iff.mp h)

/-- Only the empty text is one empty part. -/
theorem eq_empty_of_splitOn {s : String} (h : splitOn '/' s = [""]) : s = "" := by
  have hparts : splitAt '/' s.toList = [[]] := by
    obtain ⟨cs, hcs, hempty⟩ := List.map_eq_singleton_iff.mp h
    rw [hcs, String.ofList_eq_empty_iff.mp hempty]
  cases hs : s.toList with
  | nil => exact String.toList_eq_nil_iff.mp hs
  | cons c cs =>
    rw [hs, splitAt] at hparts
    split at hparts
    · exact absurd (List.cons.inj hparts).2 (splitAt_ne_nil '/' cs)
    · split at hparts <;> cases hparts

end Text

namespace Path

theorem rootOf_le (n : Nat) : rootOf n ≤ 2 := by
  unfold rootOf
  split <;> omega

variable {p : Path}

/-- The names of a path, joined, start with a character of the first name. -/
theorem Proper.intercalate_eq (hp : p.Proper) (hne : p.parts ≠ []) :
    ∃ c cs, c ≠ '/' ∧ ("/".intercalate p.parts).toList = c :: cs := by
  obtain ⟨n, ns, hcons⟩ := List.exists_cons_of_ne_nil hne
  obtain ⟨hpart, hslash⟩ := hp n (hcons ▸ List.mem_cons_self)
  have hn : n.toList ≠ [] := fun h => by
    rw [String.toList_eq_nil_iff.mp h] at hpart
    cases hpart
  obtain ⟨c, cs, hc⟩ := List.exists_cons_of_ne_nil hn
  have hne : c ≠ '/' := by
    rintro rfl
    exact hslash (hc ▸ List.mem_cons_self)
  rw [hcons]
  cases ns with
  | nil => exact ⟨c, cs, hne, by rw [String.intercalate_singleton, hc]⟩
  | cons m ms =>
    rw [String.intercalate_cons_cons, String.toList_append, String.toList_append, hc]
    exact ⟨c, _, hne, rfl⟩

theorem text_ne_empty (hp : p.Proper) : p.text ≠ "" := by
  intro hempty
  unfold text at hempty
  split at hempty
  · exact absurd hempty (by decide)
  · next hroot =>
    obtain ⟨hslashes, hnames⟩ := List.append_eq_nil_iff.mp
      (String.toList_append ▸ String.toList_eq_nil_iff.mpr hempty)
    by_cases hne : p.parts = []
    · rw [String.toList_ofList, List.replicate_eq_nil_iff] at hslashes
      exact hroot ⟨hslashes, hne⟩
    · obtain ⟨c, cs, -, hc⟩ := hp.intercalate_eq hne
      rw [hc] at hnames
      cases hnames

theorem takeWhile_slash_text (hp : p.Proper) (hne : p.parts ≠ []) :
    p.text.toList.takeWhile (· == '/') = List.replicate p.root '/' := by
  obtain ⟨c, cs, hc, hnames⟩ := hp.intercalate_eq hne
  rw [text, if_neg fun h => hne h.2, String.toList_append, String.toList_ofList, hnames,
    List.takeWhile_append_of_pos (by simp), List.takeWhile_cons_of_neg (by simpa using hc), List.append_nil]

theorem filter_splitOn_text (hp : p.Proper) (hne : p.parts ≠ []) :
    (Text.splitOn '/' p.text).filter isPart = p.parts := by
  have hkept : p.parts.filter isPart = p.parts := List.filter_eq_self.mpr fun n hn => (hp n hn).1
  have hdropped : (List.replicate p.root "").filter isPart = [] :=
    List.filter_eq_nil_iff.mpr fun n hn => by
      rw [List.eq_of_mem_replicate hn]
      decide
  rw [Tree.splitOn_text hp hne, List.filter_append, hkept, hdropped, List.nil_append]

/-- A path is read back from its text. -/
theorem ofText_text (hp : p.Proper) (hroot : p.root ≤ 2) : ofText p.text = p := by
  obtain ⟨root, parts⟩ := p
  dsimp only at hroot
  by_cases hne : parts = []
  · subst hne
    obtain rfl | rfl | rfl : root = 0 ∨ root = 1 ∨ root = 2 := by omega
    · decide
    · decide
    · decide
  · rw [ofText, takeWhile_slash_text hp hne, filter_splitOn_text hp hne, List.length_replicate, rootOf,
      if_neg (Nat.not_lt.mpr hroot)]

end Path

namespace Tree

variable {t t' : Tree} {here l k m : Location} {n dir : String} {names : List String}

/-! ## Going down -/

theorem locate_eq_walk {path : String} (hpath : path ≠ "") :
    t.locate here path =
      t.walk (if (Text.splitOn '/' path).head? = some "" then [] else here) (Text.splitOn '/' path) := by
  unfold locate
  split
  · next h => exact absurd (Text.eq_empty_of_splitOn h) hpath
  · next h =>
    rw [h, List.head?_cons, if_pos rfl]
    exact (walk_root _ 1).symm
  · next hempty hslash =>
    obtain ⟨n, ns, hcons⟩ := List.exists_cons_of_ne_nil (Text.splitOn_ne_nil '/' path)
    have hn : n ≠ "" := fun h => hslash ns (h ▸ hcons)
    rw [hcons, List.head?_cons, if_neg (by simpa using hn)]

/-- A path leads where its parts lead, from a directory. -/
theorem locate_of_walk {p : Path} (hp : p.Proper) (hstart : t.get? (p.start here) = some .directory)
    (hw : t.walk (p.start here) p.parts = .ok k) : t.locate here p.text = .ok k := by
  by_cases hne : p.parts = []
  · obtain ⟨root, parts⟩ := p
    cases hne
    cases hw
    cases root with
    | zero =>
      have hstep : step t here "." = .ok here := step_eq_ok.mpr ⟨hstart, rfl⟩
      exact walk_cons_eq_ok.mpr ⟨here, hstep, rfl⟩
    | succ root =>
      have htext : (Path.mk (root + 1) []).text = String.ofList (List.replicate (root + 1) '/') := by
        rw [Path.text, if_neg (by simp), String.intercalate_nil, String.append_empty]
      have hsplit : Text.splitOn '/' (Path.mk (root + 1) []).text = List.replicate (root + 1) "" ++ [""] := by
        have hslashes := Text.splitAt_replicate '/' (root + 1) []
        rw [List.append_nil] at hslashes
        rw [Text.splitOn, htext, String.toList_ofList, hslashes, List.map_append, List.map_replicate]
        rfl
      rw [locate_eq_walk (Path.text_ne_empty hp), hsplit, List.replicate_succ, List.cons_append, List.head?_cons,
        if_pos rfl, ← List.cons_append, ← List.replicate_succ, walk_root]
      exact walk_cons_eq_ok.mpr ⟨[], step_eq_ok.mpr ⟨rfl, rfl⟩, rfl⟩
  · rw [locate_text hp hne, hw]

theorem exists_before_slash (h : dir.endsWith "/" = true) : ∃ before, dir = before ++ "/" := by
  change dir.toSlice.endsWith "/" = true at h
  rw [String.Slice.endsWith_string_iff, String.copy_toSlice] at h
  obtain ⟨cs, hcs⟩ := h
  exact ⟨String.ofList cs, by rw [← String.toList_inj, String.toList_append, String.toList_ofList, hcs]⟩

theorem inside_ne_empty (dir : String) (hn : IsName n) : inside dir n ≠ "" := by
  have hname : n ≠ "" := by
    rintro rfl
    exact absurd hn.isPart (by decide)
  have happend (s : String) : s ++ n ≠ "" := fun h => hname (String.append_eq_empty_iff.mp h).2
  unfold inside
  split
  · exact hname
  · split <;> exact happend _

/-- From a directory, one name further down. -/
theorem locate_inside_iff (hdir : dir ≠ "") (hn : IsName n) :
    t.locate here (inside dir n) = .ok k ↔ ∃ m, t.locate here dir = .ok m ∧ t.step m n = .ok k := by
  have hsingle (m : Location) (n : String) : t.walk m [n] = .ok k ↔ t.step m n = .ok k := by
    rw [walk_cons_eq_ok]
    constructor
    · rintro ⟨m', hstep, hwalk⟩
      cases hwalk
      exact hstep
    · exact fun hstep => ⟨k, hstep, rfl⟩
  rw [locate_eq_walk (inside_ne_empty dir hn), locate_eq_walk hdir, inside, if_neg hdir]
  split
  · next hslash =>
    -- the last, empty part of the directory's text gives way to the name
    obtain ⟨before, rfl⟩ := exists_before_slash hslash
    have hempty : Text.splitOn '/' (before ++ "/") = Text.splitOn '/' before ++ [""] := by
      have h := Text.splitOn_slash_append before "" (by decide)
      rwa [String.append_empty] at h
    have hnext := Text.splitOn_slash_append before n hn.no_slash
    rw [hempty, hnext, List.head?_append_of_ne_nil _ (Text.splitOn_ne_nil '/' before),
      List.head?_append_of_ne_nil _ (Text.splitOn_ne_nil '/' before), walk_append]
    simp only [walk_append, hsingle]
    constructor
    · rintro ⟨m, hm, hstep⟩
      have hd := (step_eq_ok.mp hstep).1
      exact ⟨m, ⟨m, hm, walk_cons_eq_ok.mpr ⟨m, step_eq_ok.mpr ⟨hd, by simp⟩, rfl⟩⟩, hstep⟩
    · rintro ⟨m, ⟨m', hm', hlast⟩, hstep⟩
      obtain ⟨m'', hstay, hm''⟩ := walk_cons_eq_ok.mp hlast
      cases hm''
      obtain ⟨-, hsame⟩ := step_eq_ok.mp hstay
      rw [if_pos (.inl rfl)] at hsame
      exact ⟨m', hm', hsame ▸ hstep⟩
  · have hsplit := Text.splitOn_slash_append dir n hn.no_slash
    rw [hsplit, List.head?_append_of_ne_nil _ (Text.splitOn_ne_nil '/' dir), walk_append]
    simp only [hsingle]

theorem getLast?_of_locate_inside (hdir : dir ≠ "") (hn : IsName n) (hl : t.locate here (inside dir n) = .ok k) :
    k.getLast? = some n := by
  obtain ⟨m, -, hstep⟩ := (locate_inside_iff hdir hn).mp hl
  rw [step_name (step_eq_ok.mp hstep).1 hn, Except.ok.injEq] at hstep
  rw [← hstep, List.getLast?_concat]

/-- From a directory, any number of names further down. -/
theorem locate_foldl_inside (hdir : dir ≠ "") (hnames : ∀ n ∈ names, IsName n) :
    t.locate here (names.foldl inside dir) = .ok k ↔ ∃ m, t.locate here dir = .ok m ∧ t.walk m names = .ok k := by
  induction names generalizing dir with
  | nil => simp [walk]
  | cons n names ih =>
    have hn := hnames n List.mem_cons_self
    rw [List.foldl_cons, ih (inside_ne_empty dir hn) fun m hm => hnames m (List.mem_cons_of_mem n hm)]
    simp only [locate_inside_iff hdir hn, walk_cons_eq_ok]
    constructor
    · rintro ⟨m', ⟨m, hm, hstep⟩, hwalk⟩
      exact ⟨m, hm, m', hstep, hwalk⟩
    · rintro ⟨m, hm, m', hstep, hwalk⟩
      exact ⟨m', ⟨m, hm, hstep⟩, hwalk⟩

theorem eq_append_of_walk (hnames : ∀ n ∈ names, IsName n) (hw : t.walk m names = .ok k) : k = m ++ names := by
  induction names generalizing m with
  | nil =>
    cases hw
    rw [List.append_nil]
  | cons n names ih =>
    obtain ⟨m', hstep, hwalk⟩ := walk_cons_eq_ok.mp hw
    rw [step_name (step_eq_ok.mp hstep).1 (hnames n List.mem_cons_self)] at hstep
    cases hstep
    rw [ih (fun k hk => hnames k (List.mem_cons_of_mem n hk)) hwalk, List.append_assoc]
    rfl

/-! ## What is there -/

/-- Above something, there are directories. -/
theorem WellFormed.directory_above (ht : t.WellFormed) (hm : t.get? (m ++ n :: names) ≠ none) :
    t.get? m = some .directory := by
  have hnext : t.get? (m ++ [n]) ≠ none := fun hnone => by
    have habsent := ht.absent_below hnone names
    rw [List.append_assoc, List.singleton_append] at habsent
    exact hm habsent
  exact ht.parents m n hnext

/-- What is there can be walked to. -/
theorem WellFormed.walk_present (ht : t.WellFormed) (hnames : ∀ n ∈ names, IsName n)
    (hm : t.get? (m ++ names) ≠ none) : t.walk m names = .ok (m ++ names) := by
  induction names generalizing m with
  | nil => rw [List.append_nil, walk]
  | cons n names ih =>
    have hstep := step_name (ht.directory_above hm) (hnames n List.mem_cons_self)
    have happend : m ++ n :: names = (m ++ [n]) ++ names := by rw [List.append_assoc, List.singleton_append]
    rw [happend] at hm ⊢
    exact walk_cons_eq_ok.mpr ⟨_, hstep, ih (fun k hk => hnames k (List.mem_cons_of_mem n hk)) hm⟩

/-- Going down from a directory, a file is read if it is there. -/
theorem readFile_foldl_inside (ht : t.WellFormed) (hdir : dir ≠ "") (hl : t.locate here dir = .ok l)
    (hnames : ∀ n ∈ names, IsName n) {content : Bytes} :
    t.readFile here (names.foldl inside dir) = .ok content ↔ ∃ x, t.get? (l ++ names) = some (.file content x) := by
  rw [readFile_eq_ok]
  constructor
  · rintro ⟨k, x, hk, hfile⟩
    obtain ⟨m, hm, hwalk⟩ := (locate_foldl_inside hdir hnames).mp hk
    cases hl.symm.trans hm
    rw [eq_append_of_walk hnames hwalk] at hfile
    exact ⟨x, hfile⟩
  · rintro ⟨x, hfile⟩
    have hwalk := ht.walk_present (m := l) hnames (by simp [hfile])
    exact ⟨_, x, (locate_foldl_inside hdir hnames).mpr ⟨l, hl, hwalk⟩, hfile⟩

/-- A file is also read by its name, from the directory above it. -/
theorem readFile_beside (ht : t.WellFormed) {p : Path} (hp : p.Proper) (hroot : p.root ≤ 2) {content : Bytes}
    (h : t.readFile here p.text = .ok content) :
    IsName p.name ∧ t.readFile here (inside p.parent.text p.name) = .ok content := by
  obtain ⟨k, x, hk, hfile⟩ := readFile_eq_ok.mp h
  obtain ⟨hstart, hwalk⟩ := walk_parts_of_locate hk
  rw [Path.ofText_text hp hroot] at hstart hwalk
  have hdir : ¬t.get? k = some .directory := fun hd => by
    rw [hd] at hfile
    cases hfile
  rcases List.eq_nil_or_concat p.parts with hnil | ⟨parts, n, hparts⟩
  · rw [hnil] at hwalk
    cases hwalk
    exact absurd hstart hdir
  rw [List.concat_eq_append] at hparts
  obtain ⟨m, hm, hlast⟩ := walk_append.mp (hparts ▸ hwalk)
  obtain ⟨k', hstep, hk'⟩ := walk_cons_eq_ok.mp hlast
  cases hk'
  obtain ⟨hmdir, hplace⟩ := step_eq_ok.mp hstep
  have hname : p.name = n := by simp [Path.name, hparts]
  have hparent : p.parent = ⟨p.root, parts⟩ := by simp [Path.parent, hparts]
  have hproper : p.parent.Proper := fun i hi => hp i (List.dropLast_subset _ hi)
  obtain ⟨hpart, hslash⟩ := hp n (by simp [hparts])
  have hn : IsName n := by
    refine ⟨hpart, ?_, hslash⟩
    rintro rfl
    rw [if_neg (by decide), if_pos rfl] at hplace
    exact hdir (hplace ▸ ht.parent_directory (by simp [hmdir]))
  have hlocate : t.locate here p.parent.text = .ok m := locate_of_walk hproper hstart (hparent ▸ hm)
  rw [hname]
  have hinside : t.locate here (inside p.parent.text n) = .ok k :=
    (locate_inside_iff (Path.text_ne_empty hproper) hn).mpr ⟨m, hlocate, hstep⟩
  exact ⟨hn, readFile_eq_ok.mpr ⟨k, x, hinside, hfile⟩⟩

/-- The text of a path that leads to a directory. -/
theorem Folder.of_locate {p : Path} (hp : p.Proper) (hroot : p.root ≤ 2) (hl : t.locate here p.text = .ok l)
    (hd : t.get? l = some .directory) : Folder t here p l := by
  obtain ⟨-, hwalk⟩ := walk_parts_of_locate hl
  rw [Path.ofText_text hp hroot] at hwalk
  exact ⟨hp, hwalk, hd⟩

theorem Folder.isFile_child {p : Path} (hf : Folder t here p l) (hn : IsName n) :
    t.isFile here (p.child n).text = true ↔ ∃ c x, t.get? (l ++ [n]) = some (.file c x) := by
  rw [isFile_eq_true, hf.locate_child (adds_none.mpr (Same.refl t)) hn]
  constructor
  · rintro ⟨k, c, x, hk, hfile⟩
    cases hk
    exact ⟨c, x, hfile⟩
  · rintro ⟨c, x, hfile⟩
    exact ⟨_, c, x, rfl, hfile⟩

end Tree

end ShaderBundle
