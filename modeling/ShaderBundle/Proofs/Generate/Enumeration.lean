import Mathlib.Data.List.TakeWhile
import ShaderBundle.Proofs.Generate.Diagnostics
import ShaderBundle.Proofs.Generate.Reading
import ShaderBundle.Proofs.Generate.Trace

/-!
# In whatever order a directory is listed

The shaders of a directory are told by the suffixes of its files. Their order is that of their names, and no run tells
in which order the directory lists them.

* `Path.suffixOf_eq_iff`: names that have a suffix.
* `Tree.same_of_perm`: trees whose entries are in another order.
* `Behaviour.blind`: tools that go by the files they read.
* `run_staged`: a run finds the stage of each of its shaders.
* `discover_ordered`: what is discovered, and that the order of the entries makes no difference to a run.
-/

namespace ShaderBundle

open ShaderBundle.Action ShaderBundle.Tree

/-! ## Suffixes -/

namespace Path

variable {cs ext suffix : List Char} {n : String}

theorem fromLastDot_append (stem : List Char) (hext : '.' ∉ ext) :
    fromLastDot (stem ++ '.' :: ext) = some ('.' :: ext) := by
  have hafter : (stem ++ '.' :: ext).reverse.takeWhile (· ≠ '.') = ext.reverse := by
    rw [List.reverse_append, List.reverse_cons, List.append_assoc, List.takeWhile_append_of_pos]
    · rw [List.singleton_append, List.takeWhile_cons_of_neg (by simp), List.append_nil]
    · intro c hc
      simpa using ne_of_mem_of_not_mem (List.mem_reverse.mp hc) hext
  unfold fromLastDot
  rw [hafter, List.reverse_reverse, List.length_append, List.length_cons, if_neg (by omega)]

theorem fromLastDot_eq_some :
    fromLastDot cs = some suffix ↔ ∃ stem ext, '.' ∉ ext ∧ suffix = '.' :: ext ∧ cs = stem ++ suffix := by
  constructor
  · intro h
    by_cases hdot : '.' ∈ cs
    · -- the last dot is the first one from behind
      obtain ⟨ext, stem, hreverse, hext⟩ := List.eq_append_cons_of_mem (List.mem_reverse.mpr hdot)
      have hcs : cs = stem.reverse ++ '.' :: ext.reverse := by
        rw [← List.reverse_reverse cs, hreverse, List.reverse_append, List.reverse_cons, List.append_assoc,
          List.singleton_append]
      have hext' : '.' ∉ ext.reverse := fun h => hext (List.mem_reverse.mp h)
      rw [hcs, fromLastDot_append _ hext', Option.some.injEq] at h
      exact ⟨_, _, hext', h.symm, h ▸ hcs⟩
    · have hall : cs.reverse.takeWhile (· ≠ '.') = cs.reverse :=
        List.takeWhile_eq_self_iff.mpr fun c hc => by
          simpa using ne_of_mem_of_not_mem (List.mem_reverse.mp hc) hdot
      unfold fromLastDot at h
      rw [hall, List.reverse_reverse, if_pos rfl] at h
      cases h
  · rintro ⟨stem, ext, hext, rfl, rfl⟩
    exact fromLastDot_append stem hext

/-- A name has a suffix if it ends with it and is not all of it, whatever dots are in front. -/
theorem suffixOf_eq_iff (ext : List Char) (hext : '.' ∉ ext) (hne : ext ≠ []) :
    suffixOf n = String.ofList ('.' :: ext) ↔ ∃ stem, stem ≠ "" ∧ n = stem ++ String.ofList ('.' :: ext) := by
  unfold suffixOf
  dsimp only
  constructor
  · intro h
    cases hlast : fromLastDot n.toList with
    | none =>
      rw [hlast] at h
      exact absurd (congrArg String.toList h) (by simp)
    | some suffix =>
      rw [hlast] at h
      dsimp only at h
      split at h
      · next hlength =>
        obtain ⟨stem, -, -, -, hn⟩ := fromLastDot_eq_some.mp hlast
        have hsuffix : suffix = '.' :: ext := String.ofList_injective h
        refine ⟨String.ofList stem, ?_, ?_⟩
        · rintro hstem
          rw [hn, String.ofList_eq_empty_iff.mp hstem] at hlength
          exact absurd hlength.1 (by simp)
        · rw [← String.ofList_append, ← hsuffix, ← hn, String.ofList_toList]
      · exact absurd (congrArg String.toList h) (by simp)
  · rintro ⟨stem, hstem, rfl⟩
    have hlength : 0 < stem.toList.length := List.length_pos_iff.mpr fun h => hstem (String.toList_eq_nil_iff.mp h)
    have hext' : 0 < ext.length := List.length_pos_iff.mpr hne
    rw [String.toList_append, String.toList_ofList, fromLastDot_append _ hext]
    dsimp only
    rw [if_pos]
    rw [List.length_append, List.length_cons]
    omega

end Path

theorem Stage.extension_of_ofSuffix? {stage : Stage} {suffix : String} (h : Stage.ofSuffix? suffix = some stage) :
    stage.extension = suffix := by
  have hfound := List.find?_some h
  exact beq_iff_eq.mp hfound

theorem Stage.suffixOf_eq_extension (stage : Stage) {n : String} :
    Path.suffixOf n = stage.extension ↔ ∃ stem, stem ≠ "" ∧ n = stem ++ stage.extension := by
  cases stage with
  | vertex => exact Path.suffixOf_eq_iff "vert".toList (by decide) (by decide)
  | fragment => exact Path.suffixOf_eq_iff "frag".toList (by decide) (by decide)

/-! ## Orders -/

namespace Tree

variable {t t' : Tree} {here : Location} {T : Tree → Tree → Prop}

theorem Distinct.lookup_eq_some (ht : t.Distinct) {l : Location} {e : Entry} :
    t.entries.lookup l = some e ↔ (l, e) ∈ t.entries := by
  rw [List.lookup_eq_some_iff]
  constructor
  · rintro ⟨before, after, hentries, -⟩
    rw [hentries]
    exact List.mem_append_right _ List.mem_cons_self
  · intro hmem
    obtain ⟨before, after, hentries⟩ := List.append_of_mem hmem
    refine ⟨before, after, hentries, fun entry hentry => ?_⟩
    -- an entry for the same location in front would be a second one
    unfold Distinct at ht
    rw [hentries, List.map_append, List.map_cons] at ht
    have hapart := List.disjoint_of_nodup_append ht (List.mem_map_of_mem hentry)
    exact bne_iff_ne.mpr fun hl => hapart (hl ▸ List.mem_cons_self)

theorem Distinct.of_perm (ht : t.Distinct) (hp : t'.entries.Perm t.entries) : t'.Distinct :=
  (hp.map _).nodup_iff.mpr ht

/-- The entries in another order are the same files. -/
theorem same_of_perm (ht : t.Distinct) (hp : t'.entries.Perm t.entries) : t.Same t' := by
  intro l
  unfold get?
  split
  · rfl
  · refine Option.ext fun e => ?_
    rw [ht.lookup_eq_some, (ht.of_perm hp).lookup_eq_some, hp.mem_iff]

theorem WellFormed.same (ht : t.WellFormed) (hs : t.Same t') : t'.WellFormed :=
  ⟨fun l hl => ht.names l (hs l ▸ hl), fun l n hl => hs l ▸ ht.parents l n (hs (l ++ [n]) ▸ hl)⟩

theorem Likeness.writeOutput (hT : Likeness T) (h : T t t') (here : Location) (path : String) (content : Option Bytes) :
    Both T (t.writeOutput here path content) (t'.writeOutput here path content) := by
  cases content with
  | none => exact .ok h
  | some bytes => exact hT.writeFile h here path bytes

end Tree

/-- Tools that go by the files they read do the same wherever these are the same. -/
theorem Behaviour.blind {T : Tree → Tree → Prop} (hT : Likeness T) (b : Behaviour) (here : Location)
    (c : CrossCompiler) (fxc : Bytecode.Fxc) : DeedsBy T (fun _ _ => False) (b.tools here c fxc) (b.tools here c fxc) := by
  intro n argv t t' ht
  have hread (r : ProcessResult) : ReadAlike r r := .refl (fun _ => trivial) _
  unfold Behaviour.tools
  split
  · rw [hT.readFile ht]
    cases t'.readFile here _ with
    | error e => exact .error e
    | ok source =>
      dsimp only [bind, Except.bind]
      cases b.cross argv source with
      | error e => exact .error e.file
      | ok made =>
        refine (hT.writeOutput ht _ _ _).bind fun t1 t1' ht1 => ?_
        exact (hT.writeOutput ht1 _ _ _).bind fun t2 t2' ht2 => .ok ⟨rfl, ht2, .inl (hread made.1)⟩
  · rw [hT.readFile ht]
    cases t'.readFile here fxc.sourcePath with
    | error e => exact .error e
    | ok source =>
      dsimp only [bind, Except.bind]
      cases b.bytecode argv source with
      | error e => exact .error e.file
      | ok made => exact (hT.writeOutput ht _ _ _).bind fun t1 t1' ht1 => .ok ⟨rfl, ht1, .inl (hread made.1)⟩

namespace Generator

variable {g : Generator} {h : Host} {fxc : Bytecode.Fxc} {w w' : World} {shaders : List Path}

/-! ## Names -/

/-- The names of the shaders among these names. -/
def shaderNames (t : Tree) (here : Location) (d : Path) (names : List String) : List String :=
  (shadersAmong t here d names).map Path.name

theorem map_shaderNames (t : Tree) (here : Location) (d : Path) (names : List String) :
    (shaderNames t here d names).map d.child = shadersAmong t here d names := by
  rw [shaderNames, List.map_map]
  refine (List.map_congr_left fun p hp => ?_).trans (List.map_id _)
  obtain ⟨⟨n, -, rfl⟩, -⟩ := mem_shadersAmong.mp hp
  exact congrArg d.child (Path.name_child d n)

theorem mem_shaderNames {t : Tree} {here l : Location} {d : Path} {n : String} (hd : Folder t here d l)
    (ht : t.WellFormed) : n ∈ shaderNames t here d (t.children l) ↔
      Path.suffixOf n ∈ Config.shaderSuffixes ∧ ∃ c x, t.get? (l ++ [n]) = some (.file c x) := by
  rw [shaderNames, List.mem_map, mem_shaderSuffixes]
  constructor
  · rintro ⟨p, hp, rfl⟩
    obtain ⟨n, rfl, hn⟩ := (mem_shaders hd ht).mp hp
    rwa [Path.name_child]
  · intro hn
    exact ⟨d.child n, (mem_shaders hd ht).mpr ⟨n, rfl, hn⟩, Path.name_child d n⟩

/-! ## Runs -/

/-- No run reports that it does not know the stage of a shader. -/
theorem run_staged (ht : w.tree.WellFormed) (hfxc : g.bytecodeCompiler = fxc.compile h) {e : ConvertError}
    (hr : (g.run h w).1 = .error (.reported e)) : ∀ path tool words, e.cause ≠ .tool (.unknownStage path) tool words := by
  rcases hd : g.discover h w with ⟨f | shaders, w1⟩
  · rw [run, bind_run_error hd] at hr
    cases hr
    rw [discover_run] at hd
    cases hl : w.tree.list h.here g.config.shaderDir.text with
    | ok names =>
      rw [hl] at hd
      cases hd
    | error fault =>
      rw [hl] at hd
      cases hd
      intro path tool words hcause
      cases hcause
  · rw [(discover_ok hd).1] at hd
    have htold := run_told ht hd {}
    rcases hrun : g.run h w with ⟨r, w'⟩
    rw [hrun] at hr htold
    cases hr
    cases htold with
    | @failed f _ events last own hh hs hw hf =>
      have hjob : last.job.Named := named_of_mem_all (isName_of_discover_ok ht.names hd) (job_mem_of_taken hs hh.mem)
      rcases hf with hf | ⟨fault, hf, -⟩
      · rcases Event.own_cases hfxc hjob hh.outcome with ⟨cause, rfl, hstaged⟩ | ⟨c, rfl, -⟩
        · cases hf
          exact hstaged
        · cases hf
      · cases hf

/-- Once the shaders are discovered, trees with the same files lead to the same records. -/
theorem run_blind (hfxc : g.bytecodeCompiler = fxc.compile h) (htools : DeedsBy Same (fun _ _ => False) h.tools h.tools)
    (hd : g.discover h w = (.ok shaders, w)) (hd' : g.discover h w' = (.ok shaders, w'))
    (hw : AlikeBy Same w w') : Agree Eq (g.run h w).1 (g.run h w').1 := by
  have hcompiler (source entry profile : String) :
      Concurs Same (fun _ _ => False) Eq (g.bytecodeCompiler source entry profile) (g.bytecodeCompiler source entry profile) := by
    rw [hfxc]
    exact concurs_fxc .same_files htools fxc source entry profile
  have hconverts : Concurs Same (fun _ _ => False) Eq (shaders.mapM (g.convertShader h)) (shaders.mapM (g.convertShader h)) :=
    concurs_convertShaders .same_files htools rfl hcompiler rfl shaders
  unfold run
  rw [bind_run_ok hd, bind_run_ok hd']
  rcases ((Concurs.log _ _ _ _).bind_eq fun _ => hconverts).meets w w' hw with ⟨hagree, -⟩ | ⟨_, _, -, -, hnever⟩
  · exact hagree
  · exact hnever.elim

/-- The shaders of a directory are its files with a shader's suffix, in the strict order of their names. For each of
them, and for the file it is rendered to, the stage is that of its suffix, and so no run fails to find one. The
entries may be listed in any order: the same shaders are discovered, and a run of tools that go by the files alone ends
alike, with the same records. -/
theorem discover_ordered {dir : String} {l : Location} (hdir : g.config.shaderDir = .ofText dir)
    (hfxc : g.bytecodeCompiler = fxc.compile h) (ht : w.tree.WellFormed) (hdistinct : w.tree.Distinct)
    (hl : w.tree.locate h.here g.config.shaderDir.text = .ok l) (hd : w.tree.get? l = some .directory) :
    ∃ names : List String, names.Pairwise (· < ·) ∧
      (∀ n, n ∈ names ↔ Path.suffixOf n ∈ Config.shaderSuffixes ∧ ∃ c x, w.tree.get? (l ++ [n]) = some (.file c x)) ∧
      (∀ n ∈ names, ∃ stem stage, stem ≠ "" ∧ n = stem ++ Stage.extension stage ∧
        CrossCompiler.stageOf (g.config.shaderDir.child n).text = pure stage ∧
        ∀ scratch, CrossCompiler.stageOf (Shader.scratchFile scratch (g.config.shaderDir.child n).text).text =
          pure stage) ∧
      ∀ w', w'.tree.entries.Perm w.tree.entries → w'.runs = w.runs →
        g.discover h w' = (.ok (names.map g.config.shaderDir.child), w') ∧
        (∀ e, (g.run h w').1 = .error (.reported e) → ∀ path tool words, e.cause ≠ .tool (.unknownStage path) tool words) ∧
        (DeedsBy Same (fun _ _ => False) h.tools h.tools → Agree Eq (g.run h w).1 (g.run h w').1) := by
  have hfolder : Folder w.tree h.here g.config.shaderDir l := by
    refine .of_locate ?_ ?_ hl hd
    · rw [hdir]
      exact Path.proper_ofText dir
    · rw [hdir]
      exact Path.rootOf_le _
  have hlist : w.tree.list h.here g.config.shaderDir.text = .ok (w.tree.children l) := list_eq_ok.mpr ⟨l, hl, hd, rfl⟩
  refine ⟨shaderNames w.tree h.here g.config.shaderDir (w.tree.children l), ?_, fun n => ?_, fun n hn => ?_,
    fun w' hp hruns => ?_⟩
  · exact List.pairwise_map.mpr (strict_shadersAmong (nodup_children hdistinct l) _ _ _)
  · exact mem_shaderNames hfolder ht
  · obtain ⟨hsuffix, c, x, hfile⟩ := (mem_shaderNames hfolder ht).mp hn
    have hname : IsName n := ht.names (l ++ [n]) (by simp [hfile]) n (by simp)
    obtain ⟨stage, hstage⟩ := Option.isSome_iff_exists.mp (mem_shaderSuffixes.mp hsuffix)
    obtain ⟨stem, hstem, hn⟩ := stage.suffixOf_eq_extension.mp (Stage.extension_of_ofSuffix? hstage).symm
    have hknown (d : Path) : CrossCompiler.stageOf (d.child n).text = pure stage :=
      funext (CrossCompiler.stageOf_run ((ofPath?_ofText_child d hname).trans hstage))
    refine ⟨stem, stage, hstem, hn, hknown _, fun scratch => ?_⟩
    rw [Shader.scratchFile_child _ scratch hname]
    exact hknown scratch
  · have hsame : w.tree.Same w'.tree := same_of_perm hdistinct hp
    have hfolder' : Folder w'.tree h.here g.config.shaderDir l :=
      ⟨hfolder.proper, hsame.walk _ _ ▸ hfolder.leads, hsame l ▸ hd⟩
    have hlist' : w'.tree.list h.here g.config.shaderDir.text = .ok (w'.tree.children l) :=
      list_eq_ok.mpr ⟨l, hsame.locate _ _ ▸ hl, hsame l ▸ hd, rfl⟩
    have hfiles : SameFiles l w.tree w'.tree := fun names content x => by rw [hsame]
    have hshaders := hfiles.shadersAmong hfolder hfolder' ht (ht.same hsame) hdistinct (hdistinct.of_perm hp)
    have hdiscover := discover_of_list hlist
    have hdiscover' := discover_of_list hlist'
    rw [map_shaderNames]
    rw [← hshaders] at hdiscover'
    exact ⟨hdiscover', fun e => run_staged (ht.same hsame) hfxc,
      fun htools => run_blind hfxc htools hdiscover hdiscover' ⟨hsame, hruns.symm⟩⟩

/-! Two shaders, listed in the order of neither their names nor anything else, among files and directories that are
none: a name that is all suffix, one that ends with a dot, and a directory that is called like a shader. -/

def mixedTree : Tree :=
  ⟨[(["w"], .directory), (["w", "tmp"], .directory), (["w", "shaders"], .directory),
    (["w", "shaders", "b.vert"], .file (Text.toUtf8 "x") false), (["w", "shaders", ".vert"], .file (Text.toUtf8 "x") false),
    (["w", "shaders", "a.frag.vert"], .file (Text.toUtf8 "y") false), (["w", "shaders", "c.vert"], .directory),
    (["w", "shaders", "c.vert", "d.vert"], .file [] false), (["w", "shaders", "b.vert."], .file [] false)]⟩

def mixed : List Path := ["a.frag.vert", "b.vert"].map (Path.ofText "shaders").child

theorem discover_mixed : echoGenerator.discover echoHost { tree := mixedTree } = (.ok mixed, { tree := mixedTree }) := by
  have hlist : mixedTree.list echoHost.here echoGenerator.config.shaderDir.text =
      .ok ["b.vert", ".vert", "a.frag.vert", "c.vert", "b.vert."] := rfl
  rw [discover_of_list hlist]
  have hshaders : shadersAmong mixedTree echoHost.here echoGenerator.config.shaderDir
      ["b.vert", ".vert", "a.frag.vert", "c.vert", "b.vert."] = mixed := by
    refine shadersAmong_unique (by decide) (by decide) (by decide) fun p => ⟨?_, ?_⟩
    · revert p
      decide
    · rintro ⟨⟨n, hn, rfl⟩, hshader⟩
      refine List.mem_map_of_mem ?_
      revert n
      decide
  rw [hshaders]

theorem run_mixed : ∃ (names : List String) (records : List ShaderRecord) (w1 w2 : World),
    mixed = names.map echoGenerator.config.shaderDir.child ∧
    echoGenerator.run echoHost { tree := mixedTree } = (.ok records, w1) ∧
    echoGenerator.run echoHost { tree := ⟨mixedTree.entries.reverse⟩ } = (.ok records, w2) := by
  have hsucceeds : (echoGenerator.run echoHost { tree := mixedTree }).1.toBool = true := by
    rw [run, bind_run_ok discover_mixed]
    decide +kernel
  obtain ⟨names, -, -, -, horder⟩ := discover_ordered (g := echoGenerator) (h := echoHost) (w := { tree := mixedTree })
    (l := ["w", "shaders"]) rfl rfl (by decide +kernel) (by decide) rfl rfl
  obtain ⟨hdiscover, -, -⟩ := horder { tree := mixedTree } (.refl _) rfl
  obtain ⟨-, -, hagree⟩ := horder { tree := ⟨mixedTree.entries.reverse⟩ } (List.reverse_perm _) rfl
  have hagree := hagree (Behaviour.blind .same_files echo _ _ _)
  rw [discover_mixed] at hdiscover
  rcases hr : echoGenerator.run echoHost { tree := mixedTree } with ⟨f | records, w1⟩
  · rw [hr] at hsucceeds
    cases hsucceeds
  · rw [hr] at hagree
    rcases hr' : echoGenerator.run echoHost { tree := ⟨mixedTree.entries.reverse⟩ } with ⟨r, w2⟩
    rw [hr'] at hagree
    cases hagree with
    | ok h =>
      cases h
      exact ⟨names, records, w1, w2, Except.ok.inj (congrArg Prod.fst hdiscover), rfl, rfl⟩

end Generator

end ShaderBundle
