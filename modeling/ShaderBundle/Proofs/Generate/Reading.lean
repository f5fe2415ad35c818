import ShaderBundle.Proofs.Files.Below
import ShaderBundle.Proofs.Generate.Provenance
import ShaderBundle.Proofs.Template.Standalone

/-!
# What a conversion reads

A shader and its templates are read below the directory of the shaders, and nothing else is. Where the files below it
are the same, so are the shaders and what is made of them. A shader whose template stands alone depends on its own
file only.

* `SameFiles`: trees with the same files below a location.
* `SameFiles.renderIn`, `SameFiles.shadersAmong`: renderings and shaders.
* `renderIn_standalone`: the rendering of a template that stands alone.
-/

namespace ShaderBundle

open ShaderBundle.Tree

/-- The same files below a location, whatever else there is. -/
def Tree.SameFiles (l : Location) (t t' : Tree) : Prop :=
  ∀ names content x, t.get? (l ++ names) = some (.file content x) ↔ t'.get? (l ++ names) = some (.file content x)

variable {t t' t'' : Tree} {here l : Location} {d : Path} {n dir name : String} {args : VariantArgs}

namespace Tree.SameFiles

theorem symm (h : SameFiles l t t') : SameFiles l t' t := fun names content x => (h names content x).symm

theorem trans (h : SameFiles l t t') (h' : SameFiles l t' t'') : SameFiles l t t'' :=
  fun names content x => (h names content x).trans (h' names content x)

/-- A change elsewhere. -/
theorem of_elsewhere {k : Location} (hk : ¬l <+: k) (h : ∀ m, m ≠ k → t.get? m = t'.get? m) : SameFiles l t t' := by
  intro names content x
  rw [h]
  rintro rfl
  exact hk (List.prefix_append l names)

/-- A change that is no change of a file. -/
theorem of_no_file {k : Location} (hk : ∀ content x, t.get? k ≠ some (.file content x))
    (hk' : ∀ content x, t'.get? k ≠ some (.file content x)) (h : ∀ m, m ≠ k → t.get? m = t'.get? m) :
    SameFiles l t t' := by
  intro names content x
  by_cases he : l ++ names = k
  · rw [he]
    exact iff_of_false (hk content x) (hk' content x)
  · rw [h _ he]

/-- A new directory is no new file. -/
theorem of_makeDirectory {here : Location} {path : String} (h : t.makeDirectory here path = .ok t') :
    SameFiles l t t' := by
  obtain ⟨k, -, hnone, rfl⟩ := makeDirectory_eq_ok.mp h
  have hd : t.get? k ≠ some .directory := by simp [hnone]
  have hput := get?_put (t := t) (ne_nil_of_not_directory hd) .directory
  refine of_no_file (k := k) (by simp [hnone]) (by simp [hput]) fun m hm => ?_
  rw [hput, if_neg hm]

end Tree.SameFiles

/-! ## Templates -/

section
variable (ht : t.WellFormed) (ht' : t'.WellFormed) (hdir : dir ≠ "") (hl : t.locate here dir = .ok l)
  (hl' : t'.locate here dir = .ok l)
include ht ht' hdir hl hl'

/-- Whatever a template is called, it is looked for below its directory. -/
theorem libraryOf_congr (hfile : ∀ content,
      (∃ x, t.get? (l ++ (Text.splitOn '/' name).filter Path.isPart) = some (.file content x)) ↔
        ∃ x, t'.get? (l ++ (Text.splitOn '/' name).filter Path.isPart) = some (.file content x)) :
    Shader.libraryOf t here dir name = Shader.libraryOf t' here dir name := by
  unfold Shader.libraryOf Shader.templatePath?
  by_cases hup : (Text.splitOn '/' name).contains ".."
  · simp only [hup, if_true, Option.map_none]
  · have hnames : ∀ m ∈ (Text.splitOn '/' name).filter Path.isPart, IsName m := by
      intro m hm
      obtain ⟨hsplit, hpart⟩ := List.mem_filter.mp hm
      obtain ⟨hpart, hslash⟩ := Path.proper_ofText name m (List.mem_filter.mpr ⟨hsplit, hpart⟩)
      refine ⟨hpart, ?_, hslash⟩
      rintro rfl
      exact hup (List.contains_iff_mem.mpr hsplit)
    simp only [hup, if_false, Option.map_some, Bool.false_eq_true]
    have hread (content : Bytes) :
        t.readFile here (((Text.splitOn '/' name).filter Path.isPart).foldl inside dir) = .ok content ↔
          t'.readFile here (((Text.splitOn '/' name).filter Path.isPart).foldl inside dir) = .ok content :=
      (readFile_foldl_inside ht hdir hl hnames).trans
        ((hfile content).trans (readFile_foldl_inside ht' hdir hl' hnames).symm)
    generalize t.readFile here (((Text.splitOn '/' name).filter Path.isPart).foldl inside dir) = r at hread
    generalize t'.readFile here (((Text.splitOn '/' name).filter Path.isPart).foldl inside dir) = r' at hread
    cases r with
    | ok content => rw [(hread content).mp rfl]
    | error e =>
      cases r' with
      | ok content => cases (hread content).mpr rfl
      | error e' => rfl

theorem Tree.SameFiles.libraryOf (h : SameFiles l t t') : Shader.libraryOf t here dir = Shader.libraryOf t' here dir :=
  funext fun _ => libraryOf_congr ht ht' hdir hl hl' fun content => exists_congr fun x => h _ content x

end

/-! ## Renderings -/

section
variable (hd : d.Proper) (hroot : d.root ≤ 2) (hn : IsName n)
include hd hroot hn

theorem renderIn_child (t : Tree) (here : Location) (args : VariantArgs) :
    Shader.renderIn t here (.ofText (d.child n).text) args =
      (Template.render (Shader.libraryOf t here d.text) n args).mapError (Shader.stopFailure (d.child n).text) := by
  rw [Path.ofText_text (hd.child hn) hroot, Shader.renderIn, Path.parent_child, Path.name_child]

variable (ht : t.WellFormed) (ht' : t'.WellFormed) (hl : t.locate here d.text = .ok l)
  (hl' : t'.locate here d.text = .ok l)
include ht ht' hl hl'

theorem Tree.SameFiles.renderIn (h : SameFiles l t t') (args : VariantArgs) :
    Shader.renderIn t here (.ofText (d.child n).text) args = Shader.renderIn t' here (.ofText (d.child n).text) args := by
  rw [renderIn_child hd hroot hn, renderIn_child hd hroot hn,
    h.libraryOf ht ht' (Path.text_ne_empty hd) hl hl']

/-- A template that stands alone is rendered in the same way in each tree that has it. -/
theorem renderIn_standalone (hs : Template.Standalone (Shader.libraryOf t here d.text) n args)
    (hfile : t.get? (l ++ [n]) = t'.get? (l ++ [n])) :
    Shader.renderIn t here (.ofText (d.child n).text) args = Shader.renderIn t' here (.ofText (d.child n).text) args := by
  have hsplit : (Text.splitOn '/' n).filter Path.isPart = [n] := by
    have hparts := congrArg Path.parts (Path.ofText_name hn)
    exact hparts
  have hname : Shader.libraryOf t here d.text n = Shader.libraryOf t' here d.text n := by
    refine libraryOf_congr ht ht' (Path.text_ne_empty hd) hl hl' fun content => ?_
    rw [hsplit, hfile]
  rw [renderIn_child hd hroot hn, renderIn_child hd hroot hn, Template.render_standalone hs hname]

end

/-! ## Shaders -/

namespace Generator

/-- The shaders of a directory: its files that have a stage. -/
theorem mem_shaders (hd : Folder t here d l) (ht : t.WellFormed) {p : Path} :
    p ∈ shadersAmong t here d (t.children l) ↔
      ∃ n, p = d.child n ∧ (Stage.ofSuffix? (Path.suffixOf n)).isSome ∧ ∃ c x, t.get? (l ++ [n]) = some (.file c x) := by
  rw [mem_shadersAmong]
  have hstage (n : String) : Stage.ofPath? (d.child n) = Stage.ofSuffix? (Path.suffixOf n) := by
    rw [Stage.ofPath?, Path.suffix, Path.name_child]
  constructor
  · rintro ⟨⟨n, hn, rfl⟩, hs⟩
    obtain ⟨hsome, hfile⟩ := isShader_eq_true.mp hs
    have hname := ht.names _ (mem_children.mp hn) n (by simp)
    exact ⟨n, rfl, hstage n ▸ hsome, (hd.isFile_child hname).mp hfile⟩
  · rintro ⟨n, rfl, hsome, c, x, hfile⟩
    have hpresent : t.get? (l ++ [n]) ≠ none := by simp [hfile]
    have hname := ht.names _ hpresent n (by simp)
    refine ⟨⟨n, mem_children.mpr hpresent, rfl⟩, isShader_eq_true.mpr ⟨?_, ?_⟩⟩
    · rw [hstage]
      exact hsome
    · exact (hd.isFile_child hname).mpr ⟨c, x, hfile⟩

/-- The only list of the shaders of a directory that is in the order of their names. -/
theorem shaders_unique (hd : Folder t here d l) (ht : t.WellFormed) (hdistinct : t.Distinct) {paths : List Path}
    (hp : paths.Nodup) (hsorted : paths.Pairwise fun p q => p.name ≤ q.name)
    (hmem : ∀ p, p ∈ paths ↔ ∃ n, p = d.child n ∧ (Stage.ofSuffix? (Path.suffixOf n)).isSome ∧
      ∃ c x, t.get? (l ++ [n]) = some (.file c x)) :
    shadersAmong t here d (t.children l) = paths :=
  shadersAmong_unique (nodup_children hdistinct l) hp hsorted fun p =>
    (hmem p).trans ((mem_shaders hd ht).symm.trans mem_shadersAmong)

end Generator

theorem Tree.SameFiles.shadersAmong (h : SameFiles l t t') (hd : Folder t here d l) (hd' : Folder t' here d l)
    (ht : t.WellFormed) (ht' : t'.WellFormed) (hdistinct : t.Distinct) (hdistinct' : t'.Distinct) :
    Generator.shadersAmong t here d (t.children l) = Generator.shadersAmong t' here d (t'.children l) := by
  have hnodup := (Generator.nodup_names_shadersAmong (nodup_children hdistinct' l) t' here d).of_map
  refine Generator.shaders_unique hd ht hdistinct hnodup (Generator.sorted_shadersAmong _ _ _ _) fun p => ?_
  rw [Generator.mem_shaders hd' ht']
  refine exists_congr fun n => and_congr_right fun _ => and_congr_right fun _ => ?_
  exact exists_congr fun c => exists_congr fun x => (h [n] c x).symm

end ShaderBundle
