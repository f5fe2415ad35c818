import ShaderBundle.Proofs.Generate.Regeneration
import ShaderBundle.Proofs.Go.Lossless

/-!
# Adding a shader

Shaders are converted one after the other in the order of their names, and none of them knows of another one if no
template loads another one. So a new shader adds its record to those of the others, at its place in this order, and its
lines to the module.

* `exists_place`: a list of shaders, taken apart at the place of a name.
* `forall₂_insert`: what is made of the elements of a list, with one more of them.
* `shaders_insert`, `Craft.Makes.insert`: the shaders and the records with a new one.
* `generate_inserts`: the module with a new shader.
-/

namespace ShaderBundle

open ShaderBundle.Action ShaderBundle.Tree Generator

/-! ## Lines -/

namespace Go

/-- What the lines are in a file. -/
def bytesOfLines (lines : List String) : Bytes := Text.toUtf8 (textOfLines lines)

/-- The lines of a module up to the records that come after these ones. -/
def linesUpTo (package : String) (records : List ShaderRecord) : List String :=
  [header, "", s!"package {package}", "", s!"import {stringLiteral backendPackage}", "", "var ("] ++
    records.flatMap (recordLines · "\t")

/-- Its lines from these records on. -/
def linesFrom (records : List ShaderRecord) : List String := records.flatMap (recordLines · "\t") ++ [")"]

theorem bytesOfLines_append (lines lines' : List String) :
    bytesOfLines (lines ++ lines') = bytesOfLines lines ++ bytesOfLines lines' := by
  simp [bytesOfLines, textOfLines, Text.toUtf8, Text.Utf8.encode]

/-- A module, taken apart between two of its records. -/
theorem bytesOfLines_module (package : String) (before after : List ShaderRecord) :
    bytesOfLines (moduleLines package (before ++ after)) =
      bytesOfLines (linesUpTo package before) ++ bytesOfLines (linesFrom after) := by
  rw [← bytesOfLines_append]
  simp [moduleLines, linesUpTo, linesFrom]

theorem bytesOfLines_from_cons (r : ShaderRecord) (after : List ShaderRecord) :
    bytesOfLines (linesFrom (r :: after)) = bytesOfLines (recordLines r "\t") ++ bytesOfLines (linesFrom after) := by
  rw [← bytesOfLines_append]
  simp [linesFrom]

theorem emitRecord_of_check {r : ShaderRecord} (h : checkRecord r = .ok ()) (indent : String) :
    emitRecord r indent = .ok (recordLines r indent) := by
  rw [emitRecord, h]
  rfl

end Go

/-! ## Lists -/

/-- Shaders in the order of their names, before and after another name. -/
theorem exists_place {f : String} : ∀ {paths : List Path}, paths.Pairwise (fun p q => p.name ≤ q.name) →
    (∀ p ∈ paths, p.name ≠ f) → ∃ before after, paths = before ++ after ∧ (∀ p ∈ before, p.name < f) ∧
      ∀ p ∈ after, f < p.name
  | [], _, _ => ⟨[], [], rfl, nofun, nofun⟩
  | p :: paths, hsorted, hne => by
    obtain ⟨hfirst, hrest⟩ := List.pairwise_cons.mp hsorted
    by_cases hp : p.name < f
    · obtain ⟨before, after, rfl, hbefore, hafter⟩ := exists_place hrest fun q hq => hne q (List.mem_cons_of_mem p hq)
      exact ⟨p :: before, after, rfl, List.forall_mem_cons.mpr ⟨hp, hbefore⟩, hafter⟩
    · have hlt : f < p.name := by
        refine String.not_le.mp fun hle => hne p List.mem_cons_self ?_
        exact String.le_antisymm hle (String.not_lt.mp hp)
      refine ⟨[], p :: paths, rfl, nofun, List.forall_mem_cons.mpr ⟨hlt, fun q hq => ?_⟩⟩
      exact String.not_le.mp fun hle => String.not_le.mpr hlt (String.le_trans (hfirst q hq) hle)

/-- A list in a strict order, with one more element at its place. -/
theorem pairwise_insert {α : Type} {R : α → α → Prop} {x : α} {before after : List α}
    (h : (before ++ after).Pairwise R) (hbefore : ∀ y ∈ before, R y x) (hafter : ∀ y ∈ after, R x y) :
    (before ++ x :: after).Pairwise R := by
  obtain ⟨hfirst, hlast, hcross⟩ := List.pairwise_append.mp h
  refine List.pairwise_append.mpr ⟨hfirst, List.pairwise_cons.mpr ⟨hafter, hlast⟩, fun y hy => ?_⟩
  exact List.forall_mem_cons.mpr ⟨hbefore y hy, hcross y hy⟩

section
variable {α β : Type} {R S : α → β → Prop}

theorem forall₂_append_left : ∀ {xs xs' : List α} {ys : List β}, List.Forall₂ R (xs ++ xs') ys →
    ∃ zs zs', ys = zs ++ zs' ∧ List.Forall₂ R xs zs ∧ List.Forall₂ R xs' zs'
  | [], _, ys, h => ⟨[], ys, rfl, .nil, h⟩
  | _ :: _, _, _ :: _, .cons hxy h => by
    obtain ⟨zs, zs', rfl, hzs, hzs'⟩ := forall₂_append_left h
    exact ⟨_ :: zs, zs', rfl, .cons hxy hzs, hzs'⟩

theorem forall₂_unique : ∀ {xs : List α} {ys zs : List β}, List.Forall₂ R xs ys → List.Forall₂ S xs zs →
    (∀ x ∈ xs, ∀ y z, R x y → S x z → y = z) → ys = zs
  | [], _, _, .nil, .nil, _ => rfl
  | x :: _, _, _, .cons hy hys, .cons hz hzs, h => by
    rw [h x List.mem_cons_self _ _ hy hz,
      forall₂_unique hys hzs fun x' hx' => h x' (List.mem_cons_of_mem x hx')]

/-- What is made of the elements of a list, one by one, and of one more, if one thing is made of each of the others. -/
theorem forall₂_insert {before after : List α} {x : α} {ys zs : List β} (hy : List.Forall₂ R (before ++ after) ys)
    (hz : List.Forall₂ S (before ++ x :: after) zs)
    (h : ∀ x ∈ before ++ after, ∀ y z, R x y → S x z → y = z) :
    ∃ first z last, ys = first ++ last ∧ zs = first ++ z :: last ∧ List.Forall₂ R before first ∧
      List.Forall₂ R after last ∧ S x z := by
  obtain ⟨first, last, rfl, hfirst, hlast⟩ := forall₂_append_left hy
  obtain ⟨first', rest, rfl, hfirst', hrest⟩ := forall₂_append_left hz
  cases hrest with
  | @cons _ z _ last' hxz hlast' =>
    obtain rfl : first = first' := forall₂_unique hfirst hfirst' fun x hx => h x (List.mem_append_left _ hx)
    obtain rfl : last = last' := forall₂_unique hlast hlast' fun x hx => h x (List.mem_append_right _ hx)
    exact ⟨first, z, last, rfl, rfl, hfirst, hlast, hxz⟩

end

/-! ## Shaders -/

variable {t t' : Tree} {here sd : Location} {d : Path} {f : String} {e : Entry}

/-- A new file of a directory that has a stage is one more of its shaders. -/
theorem shaders_insert (hd : Folder t here d sd) (hd' : Folder t' here d sd) (ht : t.WellFormed) (ht' : t'.WellFormed)
    (hdistinct : t.Distinct) (hdistinct' : t'.Distinct) (hstage : (Stage.ofSuffix? (Path.suffixOf f)).isSome)
    (hnew : t.get? (sd ++ [f]) = none) (hfile : ∃ c x, t'.get? (sd ++ [f]) = some (.file c x))
    (hothers : ∀ n, n ≠ f → ∀ c x, t.get? (sd ++ [n]) = some (.file c x) ↔ t'.get? (sd ++ [n]) = some (.file c x)) :
    ∃ before after, shadersAmong t here d (t.children sd) = before ++ after ∧
      shadersAmong t' here d (t'.children sd) = before ++ d.child f :: after ∧ (∀ p ∈ before, p.name < f) ∧
      ∀ p ∈ after, f < p.name := by
  have hmem {p : Path} := mem_shaders hd ht (p := p)
  have hsorted := strict_shadersAmong (nodup_children hdistinct sd) t here d
  have hne : ∀ p ∈ shadersAmong t here d (t.children sd), p.name ≠ f := by
    rintro p hp rfl
    obtain ⟨n, rfl, -, c, x, hn⟩ := hmem.mp hp
    rw [Path.name_child, hn] at hnew
    cases hnew
  obtain ⟨before, after, heq, hbefore, hafter⟩ := exists_place (hsorted.imp fun h => String.not_lt.mp (String.lt_asymm h)) hne
  rw [heq] at hsorted hmem
  refine ⟨before, after, heq, ?_, hbefore, hafter⟩
  have hplace : (before ++ d.child f :: after).Pairwise fun p q => p.name < q.name := by
    refine pairwise_insert hsorted (fun p hp => ?_) fun q hq => ?_
    · rw [Path.name_child]
      exact hbefore p hp
    · rw [Path.name_child]
      exact hafter q hq
  have hsorted' := hplace.imp fun h => String.not_lt.mp (String.lt_asymm h)
  refine shaders_unique hd' ht' hdistinct' (hplace.imp fun hlt heq => ?_) hsorted' fun p => ?_
  · rw [heq] at hlt
    exact String.lt_irrefl _ hlt
  · have hinsert : p ∈ before ++ d.child f :: after ↔ p = d.child f ∨ p ∈ before ++ after := by
      simp only [List.mem_append, List.mem_cons]
      tauto
    rw [hinsert, hmem]
    constructor
    · rintro (rfl | ⟨n, rfl, hs, c, x, hn⟩)
      · exact ⟨f, rfl, hstage, hfile⟩
      · have hnf : n ≠ f := by
          rintro rfl
          rw [hn] at hnew
          cases hnew
        exact ⟨n, rfl, hs, c, x, (hothers n hnf c x).mp hn⟩
    · rintro ⟨n, rfl, hs, c, x, hn⟩
      by_cases hnf : n = f
      · exact .inl (by rw [hnf])
      · exact .inr ⟨n, rfl, hs, c, x, (hothers n hnf c x).mpr hn⟩

/-! ## Records -/

variable {k : Craft} {config : Config} {h h' : Host} {c : CrossCompiler} {fxc : Bytecode.Fxc} {n : String}
variable {records records' : List ShaderRecord}

/-- Records have the names of their shaders. -/
theorem Craft.Records.forall_names {variants : List VariantArgs} {paths : List Path} {P : String → Prop}
    (hall : List.Forall₂ (k.Records variants c fxc t here) paths records) (h : ∀ p ∈ paths, P p.name) :
    ∀ r ∈ records, P r.name := by
  have hmapped : ∀ n ∈ records.map (·.name), P n := by
    rw [names_of_forall₂ (hall.imp fun _ _ hr => hr.1)]
    exact List.forall_mem_map.mpr h
  exact List.forall_mem_map.mp hmapped

/-- Where none of the shaders depends on the new one, its record is added to those of the others. -/
theorem Craft.Makes.insert (hm : k.Makes config c fxc t here records) (hm' : k.Makes config c fxc t' here records')
    (hp : config.shaderDir.Proper) (hroot : config.shaderDir.root ≤ 2) (ht : t.WellFormed) (ht' : t'.WellFormed)
    (hd : t.Distinct) (hd' : t'.Distinct) (hl : t.locate here config.shaderDir.text = .ok sd)
    (hl' : t'.locate here config.shaderDir.text = .ok sd) (hstage : (Stage.ofSuffix? (Path.suffixOf f)).isSome)
    (hnew : t.get? (sd ++ [f]) = none) (hadd : t.SetAt (sd ++ [f]) (some e) t') (hfile : ∃ c x, e = .file c x)
    (halone : ∀ n, (Stage.ofSuffix? (Path.suffixOf n)).isSome → t.get? (sd ++ [n]) ≠ none →
      ∀ args ∈ config.variants, Template.Standalone (Shader.libraryOf t here config.shaderDir.text) n args) :
    ∃ before r after, records = before ++ after ∧ records' = before ++ r :: after ∧ r.name = f ∧
      (∀ b ∈ before, b.name < f) ∧ ∀ a ∈ after, f < a.name := by
  obtain ⟨content, x, rfl⟩ := hfile
  obtain ⟨names, hlist, hall⟩ := hm
  obtain ⟨l, hl0, hdir, rfl⟩ := list_eq_ok.mp hlist
  cases hl.symm.trans hl0
  obtain ⟨names', hlist', hall'⟩ := hm'
  obtain ⟨l', hl0', hdir', rfl⟩ := list_eq_ok.mp hlist'
  cases hl'.symm.trans hl0'
  have hfolder := Folder.of_locate hp hroot hl hdir
  have hfolder' := Folder.of_locate hp hroot hl' hdir'
  have hothers (n : String) (hn : n ≠ f) : t'.get? (sd ++ [n]) = t.get? (sd ++ [n]) :=
    hadd.elsewhere (by simpa using hn)
  obtain ⟨before, after, hshaders, hshaders', hbefore, hafter⟩ := shaders_insert hfolder hfolder' ht ht' hd hd' hstage
    hnew ⟨content, x, hadd.there⟩ fun n hn c x => by rw [hothers n hn]
  have hmem {p : Path} := mem_shaders hfolder ht (p := p)
  rw [hshaders] at hall hmem
  rw [hshaders'] at hall'
  -- another shader is rendered as it was, so its record is the only one that is made of it
  have hsame : ∀ p ∈ before ++ after, ∀ r r', k.Records config.variants c fxc t here p r →
      k.Records config.variants c fxc t' here p r' → r = r' := by
    intro p hp0 r r' hr hr'
    obtain ⟨n, rfl, hs, content, x, hfile⟩ := hmem.mp hp0
    have hpresent : t.get? (sd ++ [n]) ≠ none := by simp [hfile]
    have hnf : n ≠ f := by
      rintro rfl
      exact hpresent hnew
    have hn := ht.names _ hpresent n (by simp)
    refine hr.unique (hr'.of_rendered rfl rfl fun args hargs => ?_)
    exact (renderIn_standalone hp hroot hn ht ht' hl hl' (halone n hs hpresent args hargs)
      (hothers n hnf).symm).symm
  obtain ⟨first, r, last, rfl, rfl, hfirst, hlast, hr⟩ := forall₂_insert hall hall' hsame
  exact ⟨first, r, last, rfl, rfl, hr.1.trans (Path.name_child _ _),
    Craft.Records.forall_names (P := (· < f)) hfirst hbefore, Craft.Records.forall_names (P := (f < ·)) hlast hafter⟩

/-! ## Runs -/

/-- The compilers of a configuration, wherever they are found and work. -/
def Craft.MakesIn (k : Craft) (h : Host) (config : Config) (t : Tree) (records : List ShaderRecord) : Prop :=
  k.Makes config (config.crossCompiler h "") (h.bytecodeCompiler "") t h.here records

theorem Craft.MakesIn.of_here (hm : k.MakesIn h' config t records) (hhere : h'.here = h.here) :
    k.MakesIn h config t records := by
  unfold MakesIn Makes Records at hm ⊢
  rw [bare_crossCompiler hhere config "" "", ← hhere]
  exact hm

section
variable {t1 : Tree} {glslcc fxc source : String} {content : Bytes} {x : Bool}
variable (hp : config.shaderDir.Proper) (hroot : config.shaderDir.root ≤ 2) (ht : t.WellFormed)
  (hm : Made k h config t t1 glslcc fxc records source content x)
  (hl : t.locate h.here config.shaderDir.text = .ok sd)
include hp hroot ht hm hl

theorem Made.makesIn (hd : t.Distinct) (hdir : t.get? sd = some .directory) : k.MakesIn h config t records := by
  obtain ⟨_, -, -, -, ht1, -⟩ := scratch_of_makeDirectory ht hm.scratch
  have hl1 := locate_mono (fun m => makeDirectory_keeps hm.scratch) hl
  exact hm.recorded.of_same rfl rfl hp hroot ht1 ht (hd.makeDirectory hm.scratch) hd hl1 hl hdir
    (SameFiles.of_makeDirectory hm.scratch).symm

end

/-- A new shader adds the lines of its record to the module, at its place in the order of names, and changes nothing else
in it, if the templates of the others stand alone. -/
theorem generate_inserts {w w1 w2 w3 : World} {output output' : Path} {content : Bytes} {x : Bool}
    (hk : Crafted h config k) (hk' : Crafted h' config k) (hhere : h'.here = h.here)
    (hp : ∃ text, config.shaderDir = .ofText text) (ho : ∃ text, config.output = .ofText text)
    (hformatter : config.formatter = []) (ht : w.tree.WellFormed) (ht' : w2.tree.WellFormed) (hd : w.tree.Distinct)
    (hd' : w2.tree.Distinct) (hl : w.tree.locate h.here config.shaderDir.text = .ok sd)
    (hdir : w.tree.get? sd = some .directory) (hsuffix : Path.suffixOf f = ".vert" ∨ Path.suffixOf f = ".frag")
    (hnew : w.tree.get? (sd ++ [f]) = none) (hadd : w.tree.SetAt (sd ++ [f]) (some (.file content x)) w2.tree)
    (halone : ∀ n, (Stage.ofSuffix? (Path.suffixOf n)).isSome → w.tree.get? (sd ++ [n]) ≠ none →
      ∀ args ∈ config.variants, Template.Standalone (Shader.libraryOf w.tree h.here config.shaderDir.text) n args)
    (hg : generate h config w = (.ok output, w1)) (hg' : generate h' config w2 = (.ok output', w3)) :
    output = config.output ∧ output' = config.output ∧ ∃ before r after lines j j',
      k.MakesIn h config w.tree (before ++ after) ∧ k.MakesIn h config w2.tree (before ++ r :: after) ∧
      r.name = f ∧ (∀ b ∈ before, b.name < f) ∧ (∀ a ∈ after, f < a.name) ∧ Go.emitRecord r "\t" = .ok lines ∧
      Placed w.tree w1.tree h.here output.text output.name (.file
        (Go.bytesOfLines (Go.linesUpTo config.package before) ++ Go.bytesOfLines (Go.linesFrom after)) false) j ∧
      Placed w2.tree w3.tree h.here output'.text output'.name (.file
        (Go.bytesOfLines (Go.linesUpTo config.package before) ++ Go.bytesOfLines lines ++
          Go.bytesOfLines (Go.linesFrom after)) false) j' := by
  obtain ⟨directory, hp⟩ := hp
  obtain ⟨file, ho⟩ := ho
  have hproper : config.output.Proper := ho ▸ Path.proper_ofText file
  have hproper' : config.shaderDir.Proper := hp ▸ Path.proper_ofText directory
  have hroot : config.shaderDir.root ≤ 2 := hp ▸ Path.rootOf_le _
  have hstage : (Stage.ofSuffix? (Path.suffixOf f)).isSome := by
    rcases hsuffix with h | h <;> (rw [h]; decide)
  have hdirectories : SameDirectories w.tree w2.tree :=
    .of_change (l := sd ++ [f]) (by simp [hnew]) (by simp [hadd.there]) fun m hm => (hadd.elsewhere hm).symm
  have hl' := hdirectories.locate.mp hl
  obtain ⟨rfl, -, t1, glslcc, fxc, records, source, _, _, j, hm, hplaced⟩ := made_of_generate hk hproper ht hg
  obtain ⟨rfl, -, t1', glslcc', fxc', records', source', _, _, j', hm', hplaced'⟩ :=
    made_of_generate hk' hproper ht' hg'
  obtain ⟨rfl, rfl⟩ := hm.finished.of_bare hformatter
  obtain ⟨rfl, rfl⟩ := hm'.finished.of_bare hformatter
  have hmakes := hm.makesIn hproper' hroot ht hl hd hdir
  have hmakes' : k.MakesIn h config w2.tree records' :=
    (hm'.makesIn hproper' hroot ht' (hhere ▸ hl') hd' ((hdirectories sd).mp hdir)).of_here hhere
  obtain ⟨before, r, after, rfl, rfl, hname, hbefore, hafter⟩ := Craft.Makes.insert hmakes hmakes' hproper' hroot ht ht'
    hd hd' hl hl' hstage hnew hadd ⟨content, x, rfl⟩ halone
  obtain ⟨-, rfl⟩ := Go.emitModule_eq_ok.mp hm.emitted
  obtain ⟨hcheck, rfl⟩ := Go.emitModule_eq_ok.mp hm'.emitted
  rw [← Go.bytesOfLines, Go.bytesOfLines_module] at hplaced hplaced'
  rw [Go.bytesOfLines_from_cons, ← List.append_assoc, hhere] at hplaced'
  exact ⟨rfl, rfl, before, r, after, _, j, j', hmakes, hmakes', hname, hbefore, hafter,
    Go.emitRecord_of_check (hcheck r (by simp)) "\t", hplaced, hplaced'⟩

/-! A second shader. Sorting two names does not reduce, so `decide` stops at the list of shaders: the run is put together
from what it makes. -/

def pairTree : Tree := deadTree.put ["w", "shaders", "b.frag"] (.file (Text.toUtf8 "y") false)

def pairScratched : Tree := pairTree.put ["w", "tmp", "again"] .directory

def pair : List Path := ["a.vert", "b.frag"].map (Path.ofText "shaders").child

def pairGenerator : Generator :=
  generatorIn (handingHost "again") handingConfig (inside "/w/bin" "glslcc") (inside "/w/bin" "fxc")
    (handingConfig.shaderDir.absolute (handingHost "again").path) (.ofText (handingHost "again").scratchPath)

theorem discover_pair :
    pairGenerator.discover (handingHost "again") { tree := pairScratched } = (.ok pair, { tree := pairScratched }) := by
  have hlist : pairScratched.list (handingHost "again").here pairGenerator.config.shaderDir.text =
      .ok ["a.vert", "b.frag"] := rfl
  rw [discover_of_list hlist]
  have hshaders : shadersAmong pairScratched (handingHost "again").here pairGenerator.config.shaderDir
      ["a.vert", "b.frag"] = pair :=
    shadersAmong_of_perm (by decide) (.refl _) (by decide) (by decide)
  rw [hshaders]

/-- What a run gives is written to a module. -/
theorem run_pair : ∃ records w', pairGenerator.run (handingHost "again") { tree := pairScratched } = (.ok records, w') ∧
    ∃ source, Go.emitModule handingConfig.package records = .ok source ∧ Text.Writable source := by
  have hsucceeds : (pairGenerator.run (handingHost "again") { tree := pairScratched }).1.toOption.any (fun records =>
      (Go.emitModule handingConfig.package records).toOption.any fun source => decide (Text.Writable source)) = true := by
    rw [Generator.run, bind_run_ok discover_pair]
    decide +kernel
  rcases hr : pairGenerator.run (handingHost "again") { tree := pairScratched } with ⟨_ | records, w'⟩
  · rw [hr] at hsucceeds
    cases hsucceeds
  · rw [hr] at hsucceeds
    have hwritable : (Go.emitModule handingConfig.package records).toOption.any
        (fun source => decide (Text.Writable source)) = true := hsucceeds
    cases hm : Go.emitModule handingConfig.package records with
    | ok source =>
      rw [hm] at hwritable
      exact ⟨records, w', rfl, source, hm, of_decide_eq_true hwritable⟩
    | error refusal =>
      rw [hm] at hwritable
      cases hwritable

theorem generate_pair : ∃ w3,
    generate (handingHost "again") handingConfig { tree := pairTree } = (.ok (.ofText "shaders.go"), w3) := by
  have ht : pairTree.WellFormed := by decide +kernel
  have hmake : pairTree.makeDirectory (handingHost "again").here (handingHost "again").scratchPath = .ok pairScratched :=
    makeDirectory_eq_ok.mpr ⟨["w", "tmp", "again"], by decide +kernel, by decide, rfl⟩
  have hglslcc : (handingHost "again").findTool? pairTree "glslcc" = some (inside "/w/bin" "glslcc") := by decide +kernel
  have hfxc : (handingHost "again").findTool? pairTree "fxc" = some (inside "/w/bin" "fxc") := by decide +kernel
  obtain ⟨_, -, -, hs, ht1, -⟩ := scratch_of_makeDirectory ht hmake
  have hplain : isPlain (Path.ofText (handingHost "again").scratchPath).text = true := by decide +kernel
  obtain ⟨b, hb, hcraft⟩ := (crafted_handingHost hplain).converts pairTree _ _ hglslcc hfxc
  obtain ⟨records, w', hrun, source, hemit, hwritable⟩ := run_pair
  obtain ⟨hmakes, -⟩ := run_makes (w := { tree := pairScratched }) hs ht1 hb hcraft rfl rfl rfl hrun
  have hmade : Made handing (handingHost "again") handingConfig pairTree pairScratched _ _ records source _ false :=
    ⟨hglslcc, hfxc, by decide, hmake, hmakes, hemit, hwritable, by decide, .bare rfl⟩
  obtain ⟨w3, hg, -⟩ := generate_of_made (w := { tree := pairTree }) (l := ["w", "shaders.go"])
    (crafted_handingHost hplain) (Path.proper_ofText "shaders.go") ht (roomy_handingHost hplain) (by decide) hmade rfl
    (by decide) (by decide +kernel)
  exact ⟨w3, hg⟩

theorem generate_handing_pair : ∃ w1 w3,
    generate (handingHost "convert") handingConfig { tree := deadTree } = (.ok (.ofText "shaders.go"), w1) ∧
      generate (handingHost "again") handingConfig { tree := pairTree } = (.ok (.ofText "shaders.go"), w3) ∧
      ∃ first lines last, w1.tree.get? ["w", "shaders.go"] = some (.file (first ++ last) false) ∧
        w3.tree.get? ["w", "shaders.go"] = some (.file (first ++ Go.bytesOfLines lines ++ last) false) := by
  have ht : deadTree.WellFormed := by decide +kernel
  have ht' : pairTree.WellFormed := by decide +kernel
  have hd : deadTree.Distinct := by decide
  have hd' : pairTree.Distinct := by decide
  have hadd : deadTree.SetAt (["w", "shaders"] ++ ["b.frag"]) (some (.file (Text.toUtf8 "y") false)) pairTree :=
    get?_put (by simp) _
  have hl : deadTree.locate (handingHost "convert").here handingConfig.shaderDir.text = .ok ["w", "shaders"] := rfl
  have hsuffix : Path.suffixOf "b.frag" = ".vert" ∨ Path.suffixOf "b.frag" = ".frag" := by decide
  let library := Shader.libraryOf deadTree (handingHost "convert").here handingConfig.shaderDir.text
  have hplain : (match Template.loadNodes library "a.vert" with
      | .ok nodes => Template.nodesPlain nodes
      | .error _ => true) = true := by
    decide +kernel
  have halone : ∀ n, (Stage.ofSuffix? (Path.suffixOf n)).isSome → deadTree.get? (["w", "shaders"] ++ [n]) ≠ none →
      ∀ args ∈ handingConfig.variants, Template.Standalone library n args := by
    intro n _ hn args _
    have hchildren : deadTree.children ["w", "shaders"] = ["a.vert"] := by decide
    obtain rfl := List.mem_singleton.mp (hchildren ▸ mem_children.mpr hn)
    refine Template.standalone_of_plain fun nodes hnodes => ?_
    rwa [hnodes] at hplain
  have hscratch : isPlain (Path.ofText (handingHost "convert").scratchPath).text = true := by decide +kernel
  have hscratch' : isPlain (Path.ofText (handingHost "again").scratchPath).text = true := by decide +kernel
  obtain ⟨w3, hg'⟩ := generate_pair
  have hsucceeds := toBool_handing
  rcases hg : generate (handingHost "convert") handingConfig { tree := deadTree } with ⟨_ | output, w1⟩
  · rw [hg] at hsucceeds
    cases hsucceeds
  · obtain ⟨rfl, -, before, r, after, lines, j, j', -, -, -, -, -, -, hplaced, hplaced'⟩ :=
      generate_inserts (crafted_handingHost hscratch) (crafted_handingHost hscratch') rfl ⟨"shaders", rfl⟩
        ⟨"shaders.go", rfl⟩ rfl ht ht' hd hd' hl rfl hsuffix rfl hadd halone hg hg'
    obtain ⟨rfl, hput⟩ := hplaced.replaced ["w", "shaders.go"] rfl (by decide)
    obtain ⟨rfl, hput'⟩ := hplaced'.replaced ["w", "shaders.go"] rfl (by decide)
    exact ⟨w1, w3, rfl, hg', _, _, _, hput, hput'⟩

end ShaderBundle
