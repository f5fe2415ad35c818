import ShaderBundle.Proofs.Files.Operations

/-!
# Working in a scratch directory

A directory that is empty at first, and all trees that differ from the first one in that directory only.
In each of them the directory is still found by its path, and so is every file in it by its name.

* `WellFormed`: names are names, and what is in a directory has the directory above it.
* `Scratch`: a path leads to an empty directory.
* `Within`: trees that differ in the scratch directory only.
* `WritesOnly`: a change that writes some files at most.
-/

namespace ShaderBundle

instance (n : String) : Decidable (IsName n) :=
  decidable_of_iff (Path.isPart n = true ∧ n ≠ ".." ∧ '/' ∉ n.toList)
    ⟨fun h => ⟨h.1, h.2.1, h.2.2⟩, fun h => ⟨h.isPart, h.not_up, h.no_slash⟩⟩

/-! ## Names of paths -/

namespace Path

theorem ofText_name {n : String} (hn : IsName n) : ofText n = ⟨0, [n]⟩ := by
  have hparts : (ofText n).parts = [n] := by
    have hsplit := Text.splitAt_of_not_mem hn.no_slash
    simp [ofText, Text.splitOn, hsplit, hn.isPart]
  have hroot : (ofText n).root = 0 := by
    rw [Tree.root_ofText_eq_zero]
    intro h
    obtain ⟨cs, hcs⟩ := List.head?_eq_some_iff.mp h
    exact hn.no_slash (by simp [hcs])
  cases h : ofText n with
  | mk root parts =>
    rw [h] at hparts hroot
    simp only at hparts hroot
    rw [hparts, hroot]

theorem join_name (p : Path) {n : String} (hn : IsName n) : p.join (ofText n) = p.child n := by
  rw [ofText_name hn]
  rfl

theorem text_child_of_root {p : Path} (hp : p.parts = []) (n : String) :
    (p.child n).text = String.ofList (List.replicate p.root '/') ++ n := by
  simp [text, child, hp]

theorem text_child {p : Path} (hp : p.parts ≠ []) (n : String) : (p.child n).text = p.text ++ "/" ++ n := by
  have htext : p.text = String.ofList (List.replicate p.root '/') ++ "/".intercalate p.parts :=
    if_neg fun h => hp h.2
  have hchild : (p.child n).text = String.ofList (List.replicate p.root '/') ++ "/".intercalate (p.parts ++ [n]) :=
    if_neg fun h => by simp [child] at h
  have hjoin : "/".intercalate (p.parts ++ [n]) = "/".intercalate p.parts ++ "/" ++ n := by
    rw [String.intercalate_append_of_ne_nil hp (List.cons_ne_nil n []), String.intercalate_singleton]
  rw [hchild, htext, hjoin]
  simp only [String.append_assoc]

theorem text_child_append (p : Path) (n m : String) : (p.child (n ++ m)).text = (p.child n).text ++ m := by
  by_cases hp : p.parts = []
  · rw [text_child_of_root hp, text_child_of_root hp, String.append_assoc]
  · simp only [text_child hp, String.append_assoc]

/-- The last name of a path is read back from its text. -/
theorem name_ofText_child (p : Path) {n : String} (hn : IsName n) : (ofText (p.child n).text).name = n := by
  have hname : Text.splitAt '/' n.toList = [n.toList] := Text.splitAt_of_not_mem hn.no_slash
  have hsplit : ∃ names, Text.splitOn '/' (p.child n).text = names ++ [n] := by
    by_cases hparts : p.parts = []
    · refine ⟨List.replicate p.root "", ?_⟩
      simp [text_child_of_root hparts, Text.splitOn, Text.splitAt_replicate, hname]
    · refine ⟨Text.splitOn '/' p.text, ?_⟩
      have hslash : (p.text ++ "/" ++ n).toList = p.text.toList ++ '/' :: n.toList := by simp
      rw [text_child hparts, Text.splitOn, hslash, Text.splitAt_append, hname]
      simp [Text.splitOn]
  obtain ⟨names, hnames⟩ := hsplit
  have hparts : (ofText (p.child n).text).parts = names.filter isPart ++ [n] := by
    simp [ofText, hnames, hn.isPart]
  simp [name, hparts]

/-- A path with a last name, taken apart. -/
theorem exists_child {p : Path} (hp : p.Proper) (hn : IsName p.name) :
    ∃ d : Path, d.Proper ∧ p = d.child p.name := by
  rcases List.eq_nil_or_concat p.parts with hnil | ⟨parts, n, hparts⟩
  · have hempty : p.name = "" := by
      rw [Path.name, hnil]
      rfl
    rw [hempty] at hn
    exact absurd hn.isPart (by decide)
  · have hname : p.name = n := by
      rw [Path.name, hparts]
      simp
    refine ⟨⟨p.root, parts⟩, fun m hm => hp m (by rw [hparts]; simp [hm]), ?_⟩
    rw [hname, Path.child, ← List.concat_eq_append, ← hparts]

/-- A path with a last name, continued by one more. -/
theorem inside_text (p : Path) {m : String} (hm : IsName m) (n : String) :
    Tree.inside (p.child m).text n = ((p.child m).child n).text := by
  have hlast : ∃ before, (p.child m).text = before ++ m := by
    by_cases hparts : p.parts = []
    · exact ⟨_, text_child_of_root hparts m⟩
    · exact ⟨_, text_child hparts m⟩
  have hend : (p.child m).text.endsWith "/" = false := by
    obtain ⟨before, hbefore⟩ := hlast
    change (p.child m).text.toSlice.endsWith "/" = false
    rw [String.Slice.endsWith_string_eq_false_iff, String.copy_toSlice, hbefore, String.toList_append]
    rintro ⟨cs, hcs⟩
    have hne : m.toList ≠ [] := fun h => by
      have := hm.isPart
      rw [String.toList_eq_nil_iff] at h
      rw [h] at this
      cases this
    have hslash : (cs ++ ("/" : String).toList).getLast? = some '/' := List.getLast?_concat
    rw [hcs, List.getLast?_append, List.getLast?_eq_some_getLast hne, Option.some_or] at hslash
    exact hm.no_slash (List.mem_of_getLast? (by rw [List.getLast?_eq_some_getLast hne, hslash]))
  have hne : (p.child m).text ≠ "" := by
    obtain ⟨before, hbefore⟩ := hlast
    rw [hbefore, ne_eq, String.append_eq_empty_iff]
    rintro ⟨-, rfl⟩
    exact absurd hm.isPart (by decide)
  rw [Tree.inside, if_neg hne, hend, if_neg (by decide)]
  exact (text_child (p := p.child m) (by simp [child]) n).symm

end Path

/-! ## Well-formed trees -/

namespace Tree

/-- What every file system has: proper names, and a directory above each entry. -/
structure WellFormed (t : Tree) : Prop where
  names : ∀ l, t.get? l ≠ none → ∀ n ∈ l, IsName n
  parents : ∀ l n, t.get? (l ++ [n]) ≠ none → t.get? l = some .directory

variable {t t' t0 : Tree} {here s l : Location} {p : Path}

/-- Below what is not there, there is nothing. -/
theorem WellFormed.absent_below (ht : t.WellFormed) (hs : t.get? s = none) (names : List String) :
    t.get? (s ++ names) = none := by
  induction names generalizing s with
  | nil => simpa using hs
  | cons n names ih =>
    have hn : t.get? (s ++ [n]) = none := by
      cases h : t.get? (s ++ [n]) with
      | none => rfl
      | some e =>
        have := ht.parents s n (by simp [h])
        rw [hs] at this
        cases this
    have := ih hn
    simpa using this

theorem WellFormed.parent_directory (ht : t.WellFormed) (hl : t.get? l ≠ none) :
    t.get? l.dropLast = some .directory := by
  rcases List.eq_nil_or_concat l with rfl | ⟨m, n, rfl⟩
  · rfl
  · rw [List.concat_eq_append, List.dropLast_concat]
    exact ht.parents m n (by simpa using hl)

theorem get?_eq_none_iff (hl : l ≠ []) : t.get? l = none ↔ ∀ x ∈ t.entries, x.1 ≠ l := by
  rw [get?, if_neg hl, List.lookup_eq_none_iff]
  simp only [bne_iff_ne, ne_comm]

theorem wellFormed_iff : t.WellFormed ↔
    ∀ x ∈ t.entries, (∀ n ∈ x.1, IsName n) ∧ t.get? x.1.dropLast = some .directory := by
  constructor
  · intro ht x hx
    have hpresent : t.get? x.1 ≠ none := by
      by_cases hne : x.1 = []
      · simp [hne, get?]
      · exact fun h => (get?_eq_none_iff hne).mp h x hx rfl
    exact ⟨ht.names x.1 hpresent, ht.parent_directory hpresent⟩
  · intro h
    have hentry (l : Location) (hne : l ≠ []) (hl : t.get? l ≠ none) : ∃ x ∈ t.entries, x.1 = l :=
      Classical.byContradiction fun hno =>
        hl ((get?_eq_none_iff hne).mpr fun x hx he => hno ⟨x, hx, he⟩)
    constructor
    · intro l hl n hn
      obtain ⟨x, hx, rfl⟩ := hentry l (List.ne_nil_of_mem hn) hl
      exact (h x hx).1 n hn
    · intro l n hl
      obtain ⟨x, hx, he⟩ := hentry (l ++ [n]) (by simp) hl
      have := (h x hx).2
      rwa [he, List.dropLast_concat] at this

instance (t : Tree) : Decidable t.WellFormed := decidable_of_iff _ wellFormed_iff.symm

/-! ## Scratch directories -/

/-- The path leads to a directory with nothing in it. -/
structure Scratch (t : Tree) (here : Location) (p : Path) (s : Location) : Prop where
  proper : p.Proper
  not_root : p.parts ≠ []
  leads : t.walk (p.start here) p.parts = .ok s
  directory : t.get? s = some .directory
  empty : ∀ l, s <+: l → l ≠ s → t.get? l = none

/-- Trees that differ from the first one in a directory only, which is still there. -/
structure Within (t0 : Tree) (s : Location) (t : Tree) : Prop where
  directory : t.get? s = some .directory
  outside : ∀ l, ¬s <+: l → t.get? l = t0.get? l

theorem empty_of_entries (h : ∀ x ∈ t.entries, s <+: x.1 → x.1 = s) : ∀ l, s <+: l → l ≠ s → t.get? l = none := by
  intro l hl hne
  have hnil : l ≠ [] := by
    rintro rfl
    exact hne (List.prefix_nil.mp hl).symm
  rw [get?_eq_none_iff hnil]
  rintro x hx rfl
  exact hne (h x hx hl)

theorem Scratch.within (h : Scratch t here p s) : Within t s t := ⟨h.directory, fun _ _ => rfl⟩

theorem Scratch.same (h : Scratch t here p s) (hs : t.Same t') : Scratch t' here p s where
  proper := h.proper
  not_root := h.not_root
  leads := hs.walk _ _ ▸ h.leads
  directory := hs s ▸ h.directory
  empty l hl hne := hs l ▸ h.empty l hl hne

theorem Scratch.walk_within (h : Scratch t0 here p s) (hw : Within t0 s t) :
    t.walk (p.start here) p.parts = .ok s := by
  refine walk_mono (fun l hl => ?_) h.leads
  by_cases hs : s <+: l
  · by_cases he : l = s
    · rw [he]
      exact hw.directory
    · rw [h.empty l hs he] at hl
      cases hl
  · rw [hw.outside l hs]
    exact hl

theorem Scratch.locate (h : Scratch t0 here p s) (hw : Within t0 s t) : t.locate here p.text = .ok s := by
  rw [locate_text h.proper h.not_root]
  exact h.walk_within hw

theorem Scratch.locate_child (h : Scratch t0 here p s) (hw : Within t0 s t) {n : String} (hn : IsName n) :
    t.locate here (p.child n).text = .ok (s ++ [n]) := by
  rw [locate_text (h.proper.child hn) (by simp [Path.child])]
  exact walk_append.mpr ⟨s, h.walk_within hw, walk_cons_eq_ok.mpr ⟨_, step_name hw.directory hn, rfl⟩⟩

/-- A change in the directory, but not of it. -/
theorem Within.changed (hw : Within t0 s t) (h : ∀ l, t'.get? l ≠ t.get? l → s <+: l ∧ l ≠ s) :
    Within t0 s t' := by
  have hsame (l : Location) (hl : ¬(s <+: l ∧ l ≠ s)) : t'.get? l = t.get? l :=
    Classical.byContradiction fun hne => hl (h l hne)
  constructor
  · rw [hsame s fun hs => hs.2 rfl]
    exact hw.directory
  · intro l hl
    rw [hsame l fun hs => hl hs.1]
    exact hw.outside l hl

/-! ## Changes of files -/

/-- At most the files at these paths have been written or removed. -/
def WritesOnly (here : Location) (paths : List String) (t t' : Tree) : Prop :=
  ∀ l, t'.get? l ≠ t.get? l → (∃ path ∈ paths, t.locate here path = .ok l) ∧
    t.get? l ≠ some .directory ∧ t'.get? l ≠ some .directory

theorem WritesOnly.trans {paths paths' : List String} {t1 : Tree} (h : WritesOnly here paths t t1)
    (h' : WritesOnly here paths' t1 t') : WritesOnly here (paths ++ paths') t t' := by
  have hdirectories (m : Location) (hm : t1.get? m = some .directory) : t.get? m = some .directory := by
    by_cases hsame : t1.get? m = t.get? m
    · rwa [← hsame]
    · exact absurd hm (h m hsame).2.2
  intro l hl
  by_cases hfirst : t1.get? l = t.get? l
  · obtain ⟨⟨path, hpath, hloc⟩, hd, hd'⟩ := h' l (hfirst ▸ hl)
    exact ⟨⟨path, List.mem_append_right _ hpath, locate_mono hdirectories hloc⟩, hfirst ▸ hd, hd'⟩
  · obtain ⟨⟨path, hpath, hloc⟩, hd, hd1⟩ := h l hfirst
    refine ⟨⟨path, List.mem_append_left _ hpath, hloc⟩, hd, ?_⟩
    by_cases hsecond : t'.get? l = t1.get? l
    · rwa [hsecond]
    · exact (h' l hsecond).2.2

theorem get?_written (hl : l ≠ []) (content : Bytes) (k : Location) :
    ∃ x, (t.written l content).get? k = if k = l then some (.file content x) else t.get? k :=
  ⟨_, get?_put hl _ k⟩

theorem writesOnly_writeFile {path : String} {content : Bytes} (h : t.writeFile here path content = .ok t') :
    WritesOnly here [path] t t' := by
  obtain ⟨l, hl, hd, rfl⟩ := writeFile_eq_ok.mp h
  intro k hk
  obtain ⟨x, hx⟩ := get?_written (t := t) (ne_nil_of_not_directory hd) content k
  by_cases he : k = l
  · subst he
    rw [if_pos rfl] at hx
    exact ⟨⟨path, by simp, hl⟩, hd, by simp [hx]⟩
  · rw [if_neg he] at hx
    exact absurd hx hk

theorem writesOnly_removeFile {path : String} (h : t.removeFile here path = .ok t') :
    WritesOnly here [path] t t' := by
  obtain ⟨l, c, x, hl, hf, rfl⟩ := removeFile_eq_ok.mp h
  have hd : t.get? l ≠ some .directory := by simp [hf]
  intro k hk
  have hx := get?_erase (t := t) (ne_nil_of_not_directory hd) k
  by_cases he : k = l
  · subst he
    rw [if_pos rfl] at hx
    exact ⟨⟨path, by simp, hl⟩, hd, by simp [hx]⟩
  · rw [if_neg he] at hx
    exact absurd hx hk

/-- Writing files of the directory changes nothing but the directory. -/
theorem Scratch.within_writesOnly {paths : List String} (h : Scratch t0 here p s) (hw : Within t0 s t)
    (hpaths : ∀ path ∈ paths, ∃ n, IsName n ∧ path = (p.child n).text) (hc : WritesOnly here paths t t') :
    Within t0 s t' := by
  refine hw.changed fun l hl => ?_
  obtain ⟨⟨path, hpath, hloc⟩, -, -⟩ := hc l hl
  obtain ⟨n, hn, rfl⟩ := hpaths path hpath
  rw [h.locate_child hw hn, Except.ok.injEq] at hloc
  subst hloc
  exact ⟨List.prefix_append s [n], by simp⟩

/-- In particular, writing one file. -/
theorem Scratch.within_file (h : Scratch t0 here p s) (hw : Within t0 s t) {n : String} (hn : IsName n)
    (hc : WritesOnly here [(p.child n).text] t t') : Within t0 s t' :=
  h.within_writesOnly hw (by simpa using ⟨n, hn, rfl⟩) hc

/-! ## Making and removing the directory -/

/-- Where a walk leads to nothing, its last name is missing in a directory. -/
theorem WellFormed.walk_absent (ht : t.WellFormed) {k : Location} : ∀ {names : List String} {l : Location},
    (∀ n ∈ names, Path.isPart n = true ∧ '/' ∉ n.toList) → t.get? l = some .directory →
      t.walk l names = .ok k → t.get? k = none →
        ∃ m n, k = m ++ [n] ∧ t.get? m = some .directory ∧ IsName n
  | [], l, _, hl, hw, hk => by
    cases hw
    rw [hl] at hk
    cases hk
  | name :: names, l, hnames, hl, hw, hk => by
    obtain ⟨m, hstep, hwalk⟩ := walk_cons_eq_ok.mp hw
    obtain ⟨-, hm⟩ := step_eq_ok.mp hstep
    have hrest : ∀ n ∈ names, Path.isPart n = true ∧ '/' ∉ n.toList := fun n hn =>
      hnames n (List.mem_cons_of_mem name hn)
    cases hd : t.get? m with
    | none =>
      cases names with
      | cons next names =>
        obtain ⟨m', hstep', -⟩ := walk_cons_eq_ok.mp hwalk
        rw [(step_eq_ok.mp hstep').1] at hd
        cases hd
      | nil =>
        cases hwalk
        obtain ⟨hpart, hslash⟩ := hnames name List.mem_cons_self
        have hkeep : ¬(name = "" ∨ name = ".") := by
          simpa [Path.isPart] using hpart
        rw [if_neg hkeep] at hm
        by_cases hup : name = ".."
        · rw [if_pos hup] at hm
          have hparent := ht.parent_directory (l := l) (by simp [hl])
          rw [← hm, hk] at hparent
          cases hparent
        · rw [if_neg hup] at hm
          exact ⟨l, name, hm, hl, hpart, hup, hslash⟩
    | some e =>
      cases e with
      | directory => exact ht.walk_absent hrest hd hwalk hk
      | file c x =>
        cases names with
        | nil =>
          cases hwalk
          rw [hd] at hk
          cases hk
        | cons next names =>
          obtain ⟨m', hstep', -⟩ := walk_cons_eq_ok.mp hwalk
          rw [(step_eq_ok.mp hstep').1] at hd
          cases hd

/-- A change of one entry in a directory, which stays a directory if it is one. -/
theorem WellFormed.of_change (ht : t.WellFormed) {m : Location} {n : String} (hm : t.get? m = some .directory)
    (hn : IsName n) (hd : t.get? (m ++ [n]) = some .directory → t'.get? (m ++ [n]) = some .directory)
    (h : ∀ k, k ≠ m ++ [n] → t'.get? k = t.get? k) : t'.WellFormed := by
  have hkept {k : Location} (hk : t.get? k = some .directory) : t'.get? k = some .directory := by
    by_cases he : k = m ++ [n]
    · rw [he] at hk ⊢
      exact hd hk
    · rw [h k he, hk]
  constructor
  · intro l hl k hk
    by_cases he : l = m ++ [n]
    · subst he
      rcases List.mem_append.mp hk with hk | hk
      · exact ht.names m (by simp [hm]) k hk
      · rwa [List.mem_singleton.mp hk]
    · rw [h l he] at hl
      exact ht.names l hl k hk
  · intro l k hl
    by_cases he : l ++ [k] = m ++ [n]
    · rw [(List.append_inj' he rfl).1]
      exact hkept hm
    · rw [h _ he] at hl
      exact hkept (ht.parents l k hl)

theorem WellFormed.put_directory (ht : t.WellFormed) {m : Location} {n : String} (hm : t.get? m = some .directory)
    (hn : IsName n) : (t.put (m ++ [n]) .directory).WellFormed := by
  have hput := get?_put (t := t) (l := m ++ [n]) (by simp) .directory
  refine ht.of_change hm hn (fun _ => ?_) fun k hk => ?_
  · rw [hput, if_pos rfl]
  · rw [hput, if_neg hk]

/-- A new directory is empty, and nothing else is new. -/
theorem scratch_of_makeDirectory {path : String} (ht : t.WellFormed) (h : t.makeDirectory here path = .ok t') :
    ∃ s, t.locate here path = .ok s ∧ t.get? s = none ∧ Scratch t' here (.ofText path) s ∧ t'.WellFormed ∧
      ∀ l, ¬s <+: l → t'.get? l = t.get? l := by
  obtain ⟨s, hs, hnone, rfl⟩ := makeDirectory_eq_ok.mp h
  have hd : t.get? s ≠ some .directory := by simp [hnone]
  have hne : s ≠ [] := ne_nil_of_not_directory hd
  obtain ⟨hstart, hwalk⟩ := walk_parts_of_locate hs
  have hparts : (Path.ofText path).parts ≠ [] := by
    intro he
    rw [he] at hwalk
    cases hwalk
    exact hd hstart
  obtain ⟨m, n, rfl, hm, hn⟩ := ht.walk_absent (Path.proper_ofText path) hstart hwalk hnone
  refine ⟨m ++ [n], hs, hnone, ⟨Path.proper_ofText path, hparts, ?_, ?_, ?_⟩, ht.put_directory hm hn, ?_⟩
  · refine walk_mono (fun l hl => ?_) hwalk
    rw [get?_put hne]
    split
    · rfl
    · exact hl
  · rw [get?_put hne, if_pos rfl]
  · rintro l ⟨names, rfl⟩ hl
    rw [get?_put hne, if_neg hl]
    exact ht.absent_below hnone names
  · intro l hl
    rw [get?_put hne, if_neg]
    rintro rfl
    exact hl (List.prefix_refl _)

/-- Once the directory is removed, all is as it was before it was made. -/
theorem Scratch.removeDirectory (h : Scratch t0 here p s) (hne : s ≠ []) (hw : Within t0 s t) :
    ∃ t', t.removeDirectory here p.text = .ok t' ∧
      ∀ l, t'.get? l = if s <+: l then none else t0.get? l := by
  refine ⟨t.eraseBelow s, removeDirectory_eq_ok.mpr ⟨s, h.locate hw, hw.directory, rfl⟩, fun l => ?_⟩
  rw [get?_eraseBelow hne]
  by_cases hl : s <+: l
  · rw [if_pos hl, if_pos (List.isPrefixOf_iff_prefix.mpr hl)]
  · rw [if_neg hl, if_neg fun hp => hl (List.isPrefixOf_iff_prefix.mp hp)]
    exact hw.outside l hl

end Tree

end ShaderBundle
