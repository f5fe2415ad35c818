import ShaderBundle.Generate
import ShaderBundle.Proofs.Action.Laws
import ShaderBundle.Proofs.Files.Listing
import ShaderBundle.Proofs.Files.Scratch

/-!
# Discovered shaders

The shaders of a directory are its files with a shader's suffix, in the order of their names. Finding them
changes nothing.

* `list_eq_ok`: the names in a directory.
* `discover_ok`: what is discovered.
* `mem_shadersAmong`, `sorted_shadersAmong`: which paths these are, and in which order.
* `shadersAmong_unique`, `shadersAmong_of_perm`: there is no other such list, if no name is listed twice.
-/

namespace ShaderBundle

open ShaderBundle.Tree

variable {t : Tree} {here l : Location} {path : String} {names : List String} {n : String}

theorem Tree.list_eq_ok : t.list here path = .ok names ↔
    ∃ l, locate t here path = .ok l ∧ t.get? l = some .directory ∧ names = t.children l := by
  rw [Tree.list, refused_eq_ok, bind_eq_ok]
  constructor
  · rintro ⟨⟨l, e⟩, hf, h⟩
    obtain ⟨hl, he⟩ := find_eq_ok.mp hf
    cases e with
    | file => cases h
    | directory =>
      cases h
      exact ⟨l, hl, he, rfl⟩
  · rintro ⟨l, hl, he, rfl⟩
    exact ⟨_, find_eq_ok.mpr ⟨hl, he⟩, rfl⟩

theorem ofPath?_ofText_child (q : Path) (hn : IsName n) :
    Stage.ofPath? (.ofText (q.child n).text) = Stage.ofSuffix? (Path.suffixOf n) := by
  rw [Stage.ofPath?, Path.suffix, Path.name_ofText_child q hn]

/-- The scratch file of a shader has the shader's name. -/
theorem Shader.scratchFile_child (d scratch : Path) (hn : IsName n) :
    scratchFile scratch (d.child n).text = scratch.child n := by
  rw [scratchFile, Path.name_ofText_child d hn, Path.join_name scratch hn]

namespace Generator

variable {g : Generator} {h : Host} {w w' : World} {shaders : List Path}

/-- Files with these suffixes are those that have a stage. -/
theorem mem_shaderSuffixes {suffix : String} :
    suffix ∈ Config.shaderSuffixes ↔ (Stage.ofSuffix? suffix).isSome = true := by
  unfold Stage.ofSuffix?
  rw [List.find?_isSome]
  simp only [Config.shaderSuffixes, Stage.all, Stage.extension, List.mem_cons, List.not_mem_nil, or_false,
    exists_eq_or_imp, exists_eq_left, beq_iff_eq, @eq_comm _ suffix]

theorem isShader_eq_true {p : Path} :
    isShader t here p = true ↔ (Stage.ofPath? p).isSome = true ∧ t.isFile here p.text = true := by
  rw [isShader, Bool.and_eq_true, List.contains_iff_mem, mem_shaderSuffixes]
  rfl

theorem mem_shadersAmong {d p : Path} :
    p ∈ shadersAmong t here d names ↔ (∃ n ∈ names, p = d.child n) ∧ isShader t here p = true := by
  unfold shadersAmong
  rw [List.mem_mergeSort, List.mem_filter, List.mem_map]
  simp only [eq_comm]

theorem sorted_shadersAmong (t : Tree) (here : Location) (d : Path) (names : List String) :
    (shadersAmong t here d names).Pairwise fun p q => p.name ≤ q.name := by
  have hsorted : (shadersAmong t here d names).Pairwise fun p q => decide (p.name ≤ q.name) = true := by
    refine List.pairwise_mergeSort (fun p q r hpq hqr => ?_) (fun p q => ?_) _
    · simp only [decide_eq_true_eq] at hpq hqr ⊢
      exact String.le_trans hpq hqr
    · simp only [Bool.or_eq_true, decide_eq_true_eq]
      exact String.le_total p.name q.name
  exact hsorted.imp fun hpq => of_decide_eq_true hpq

theorem perm_shadersAmong (t : Tree) (here : Location) (d : Path) (names : List String) :
    (shadersAmong t here d names).Perm ((names.map d.child).filter (isShader t here)) := List.mergeSort_perm _ _

theorem names_of_children (d : Path) (names : List String) : (names.map d.child).map Path.name = names := by
  rw [List.map_map]
  exact (List.map_congr_left fun n _ => Path.name_child d n).trans (List.map_id names)

/-- Where no name is listed twice, no two shaders have the same name. -/
theorem nodup_names_shadersAmong (hn : names.Nodup) (t : Tree) (here : Location) (d : Path) :
    ((shadersAmong t here d names).map Path.name).Nodup := by
  rw [((perm_shadersAmong t here d names).map Path.name).nodup_iff]
  refine List.Nodup.sublist (List.filter_sublist.map Path.name) ?_
  rwa [names_of_children]

theorem strict_shadersAmong (hn : names.Nodup) (t : Tree) (here : Location) (d : Path) :
    (shadersAmong t here d names).Pairwise fun p q => p.name < q.name := by
  have hne : (shadersAmong t here d names).Pairwise fun p q => p.name ≠ q.name :=
    List.pairwise_map.mp (nodup_names_shadersAmong hn t here d)
  refine ((sorted_shadersAmong t here d names).and hne).imp fun ⟨hle, hne⟩ => ?_
  exact String.not_le.mp fun hge => hne (String.le_antisymm hle hge)

/-- The only list of these paths that is in the order of their names. -/
theorem shadersAmong_unique {d : Path} {paths : List Path} (hn : names.Nodup) (hp : paths.Nodup)
    (hsorted : paths.Pairwise fun p q => p.name ≤ q.name)
    (hmem : ∀ p, p ∈ paths ↔ (∃ n ∈ names, p = d.child n) ∧ isShader t here p = true) :
    shadersAmong t here d names = paths := by
  refine List.Perm.eq_of_pairwise (fun p q hp hq hpq hqp => ?_) (sorted_shadersAmong t here d names) hsorted ?_
  · obtain ⟨⟨n, -, rfl⟩, -⟩ := mem_shadersAmong.mp hp
    obtain ⟨⟨m, -, rfl⟩, -⟩ := (hmem q).mp hq
    rw [Path.name_child, Path.name_child] at hpq hqp
    rw [String.le_antisymm hpq hqp]
  · rw [List.perm_ext_iff_of_nodup (nodup_names_shadersAmong hn t here d).of_map hp]
    exact fun p => mem_shadersAmong.trans (hmem p).symm

/-- Shaders alone, put in the order of their names. -/
theorem shadersAmong_of_perm {d : Path} {sorted : List String} (hn : names.Nodup) (hperm : sorted.Perm names)
    (hsorted : sorted.Pairwise (· ≤ ·)) (hall : ∀ n ∈ sorted, isShader t here (d.child n) = true) :
    shadersAmong t here d names = sorted.map d.child := by
  refine shadersAmong_unique hn ?_ ?_ fun p => ?_
  · refine .of_map Path.name ?_
    rw [names_of_children]
    exact hperm.nodup_iff.mpr hn
  · refine List.pairwise_map.mp ?_
    rwa [names_of_children]
  · constructor
    · intro hp
      obtain ⟨n, hmem, rfl⟩ := List.mem_map.mp hp
      exact ⟨⟨n, hperm.subset hmem, rfl⟩, hall n hmem⟩
    · rintro ⟨⟨n, hmem, rfl⟩, -⟩
      exact List.mem_map_of_mem (hperm.symm.subset hmem)

/-- Discovery changes nothing. -/
theorem discover_run (g : Generator) (h : Host) (w : World) :
    g.discover h w =
      (match w.tree.list h.here g.config.shaderDir.text with
        | .ok names => .ok (shadersAmong w.tree h.here g.config.shaderDir names)
        | .error e =>
          .error (.reported
            { cause := .file (.cannotList g.config.shaderDir.text e) (some g.config.shaderDir.text) }), w) := by
  have hrun : g.discover h w = (match w.tree.list h.here g.config.shaderDir.text with
    | .ok names => return shadersAmong w.tree h.here g.config.shaderDir names
    | .error e => Action.fail (.file (.cannotList g.config.shaderDir.text e) (some g.config.shaderDir.text)) :
      Action (List Path)) w := rfl
  rw [hrun]
  cases w.tree.list h.here g.config.shaderDir.text <;> rfl

theorem discover_of_list (hl : w.tree.list h.here g.config.shaderDir.text = .ok names) :
    g.discover h w = (.ok (shadersAmong w.tree h.here g.config.shaderDir names), w) := by
  rw [discover_run, hl]

theorem discover_ok (hd : g.discover h w = (.ok shaders, w')) :
    w' = w ∧ ∃ names, w.tree.list h.here g.config.shaderDir.text = .ok names ∧
      shaders = shadersAmong w.tree h.here g.config.shaderDir names := by
  rw [discover_run] at hd
  cases hl : w.tree.list h.here g.config.shaderDir.text with
  | error e =>
    rw [hl] at hd
    cases hd
  | ok names =>
    rw [hl] at hd
    cases hd
    exact ⟨rfl, names, rfl, rfl⟩

/-- What is discovered is named by entries of the directory. -/
theorem isName_of_discover_ok (hn : ∀ l, w.tree.get? l ≠ none → ∀ n ∈ l, IsName n)
    (hd : g.discover h w = (.ok shaders, w')) :
    ∀ p ∈ shaders, ∃ n, IsName n ∧ p = g.config.shaderDir.child n := by
  obtain ⟨-, names, hlist, rfl⟩ := discover_ok hd
  obtain ⟨l, -, -, rfl⟩ := list_eq_ok.mp hlist
  intro p hp
  obtain ⟨⟨n, hmem, rfl⟩, -⟩ := mem_shadersAmong.mp hp
  exact ⟨n, hn _ (mem_children.mp hmem) n (by simp), rfl⟩

end Generator

end ShaderBundle
