import ShaderBundle.Proofs.Generate.Provenance
import ShaderBundle.Proofs.Go.Lossless

/-!
# Variables of a module

A variable is named after its shader, with an underscore for each dot. File names are distinct, the names of
variables need not be: `a.b.vert` and `a_b.vert` give the same one.

* `Clash`: names that give the same variable.
* `run_variables`: a module declares each variable once if and only if no two shaders clash.
-/

namespace ShaderBundle

open ShaderBundle.Action ShaderBundle.Tree Generator

/-! ## Names -/

/-- The names differ at most where one has a dot and the other an underscore. -/
def Clash (n m : String) : Prop :=
  List.Forall₂ (fun c d => c = d ∨ c ∈ ['.', '_'] ∧ d ∈ ['.', '_']) n.toList m.toList

instance (n m : String) : Decidable (Clash n m) := inferInstanceAs (Decidable (List.Forall₂ _ _ _))

/-- A character, as it is in the name of a variable. -/
def variableChar (c : Char) : Char := if c = '.' then '_' else c

theorem variableChar_eq_iff {c d : Char} :
    variableChar c = variableChar d ↔ c = d ∨ c ∈ ['.', '_'] ∧ d ∈ ['.', '_'] := by
  simp only [variableChar, List.mem_cons, List.not_mem_nil, or_false]
  by_cases hc : c = '.' <;> by_cases hd : d = '.'
  · simp [hc, hd]
  · rw [if_pos hc, if_neg hd, hc]
    constructor
    · exact fun h => .inr ⟨.inl rfl, .inr h.symm⟩
    · rintro (h | ⟨-, h | h⟩)
      · exact absurd h.symm hd
      · exact absurd h hd
      · exact h.symm
  · rw [if_neg hc, if_pos hd, hd]
    constructor
    · exact fun h => .inr ⟨.inr h, .inl rfl⟩
    · rintro (h | ⟨h | h, -⟩)
      · exact absurd h hc
      · exact absurd h hc
      · exact h
  · rw [if_neg hc, if_neg hd]
    constructor
    · exact .inl
    · rintro (h | ⟨h | h, h' | h'⟩)
      · exact h
      · exact absurd h hc
      · exact absurd h hc
      · exact absurd h' hd
      · rw [h, h']

theorem variableName_eq_iff {r r' : ShaderRecord} : r.variableName = r'.variableName ↔ Clash r.name r'.name := by
  have hname (r : ShaderRecord) : r.variableName = "shader_" ++ String.ofList (r.name.toList.map variableChar) := rfl
  rw [hname, hname, String.append_right_inj, String.ofList_inj, ← List.forall₂_eq_eq_eq, List.forall₂_map_left_iff,
    List.forall₂_map_right_iff]
  unfold Clash
  simp only [variableChar_eq_iff]

/-! ## Records of a run -/

variable {g : Generator} {h : Host} {w w' : World} {records : List ShaderRecord}

theorem name_of_convertShader {path : Path} {record : ShaderRecord}
    (hc : g.convertShader h path w = (.ok record, w')) : record.name = path.name := by
  obtain ⟨variants, w1, -, hc⟩ := bind_ok.mp hc
  obtain ⟨_, w2, -, hc⟩ := bind_ok.mp hc
  cases hc
  rfl

/-- Records are named after the shaders, in their order. -/
theorem names_of_run (hr : g.run h w = (.ok records, w')) :
    ∃ shaders, g.discover h w = (.ok shaders, w) ∧ records.map (·.name) = shaders.map Path.name := by
  obtain ⟨shaders, w1, hdiscover, hr⟩ := bind_ok.mp hr
  obtain ⟨hsame, -⟩ := discover_ok hdiscover
  subst w1
  obtain ⟨_, w2, -, hr⟩ := bind_ok.mp hr
  obtain ⟨-, hall⟩ := mapM_ok (I := fun _ => True) (R := fun path record => record.name = path.name)
    (fun path _ w w' record _ hc => ⟨trivial, name_of_convertShader hc⟩) hr trivial
  exact ⟨shaders, hdiscover, names_of_forall₂ hall⟩

/-- The files of a directory have distinct names, and so have the records of a run. Their variables are distinct
if and only if no two of the names clash; they are what the module declares, one after the other. -/
theorem run_variables (hd : w.tree.Distinct) (hr : g.run h w = (.ok records, w')) :
    ∃ shaders, g.discover h w = (.ok shaders, w) ∧ records.map (·.name) = shaders.map Path.name ∧
      (shaders.map Path.name).Nodup ∧
      ((records.map (·.variableName)).Nodup ↔ shaders.Pairwise fun p q => ¬Clash p.name q.name) ∧
      ∀ (u : Go.Alphabet) (package : String), u.isIdentifier package = true →
        (∀ r ∈ records, Go.Expressible u r) → ∃ text o, Go.emitModule package records = .ok text ∧
          Go.readOutline u text = some o ∧ o.vars.map Prod.fst = records.map (·.variableName) := by
  obtain ⟨shaders, hdiscover, hnames⟩ := names_of_run hr
  obtain ⟨-, names, hlist, hshaders⟩ := discover_ok hdiscover
  obtain ⟨l, -, -, hchildren⟩ := list_eq_ok.mp hlist
  have hnodup : (shaders.map Path.name).Nodup := by
    rw [hshaders]
    exact nodup_names_shadersAmong (hchildren ▸ nodup_children hd l) _ _ _
  refine ⟨shaders, hdiscover, hnames, hnodup, ?_, fun u package hp hall => ?_⟩
  · have hclash : shaders.Pairwise (fun p q => ¬Clash p.name q.name) ↔
        records.Pairwise fun r r' => ¬Clash r.name r'.name := by
      rw [← List.pairwise_map (f := Path.name) (R := fun n m => ¬Clash n m), ← hnames, List.pairwise_map]
    rw [hclash, List.Nodup, List.pairwise_map]
    simp only [ne_eq, variableName_eq_iff]
  · refine ⟨_, _, Go.emitModule_ok package hall, Go.readOutline_module hp hall, ?_⟩
    rw [Go.outline, List.map_map]
    rfl

/-! Two shaders with one variable. -/

def twinTree : Tree :=
  ⟨[(["w"], .directory), (["w", "tmp"], .directory), (["w", "shaders"], .directory),
    (["w", "shaders", "a_b.vert"], .file (Text.toUtf8 "x") false),
    (["w", "shaders", "a.b.vert"], .file (Text.toUtf8 "x") false)]⟩

def twins : List Path := ["a.b.vert", "a_b.vert"].map (Path.ofText "shaders").child

theorem discover_twins : echoGenerator.discover echoHost { tree := twinTree } = (.ok twins, { tree := twinTree }) := by
  have hlist : twinTree.list echoHost.here echoGenerator.config.shaderDir.text = .ok ["a_b.vert", "a.b.vert"] := rfl
  rw [discover_of_list hlist]
  have hshaders : shadersAmong twinTree echoHost.here echoGenerator.config.shaderDir ["a_b.vert", "a.b.vert"] = twins :=
    shadersAmong_of_perm (by decide) (.swap ..) (by decide) (by decide)
  rw [hshaders]

theorem run_twins : ∃ records w', echoGenerator.run echoHost { tree := twinTree } = (.ok records, w') ∧
    records.map (·.name) = ["a.b.vert", "a_b.vert"] ∧ ¬(records.map (·.variableName)).Nodup := by
  have hsucceeds : (echoGenerator.run echoHost { tree := twinTree }).1.toBool = true := by
    rw [Generator.run, bind_run_ok discover_twins]
    decide +kernel
  rcases hr : echoGenerator.run echoHost { tree := twinTree } with ⟨_ | records, w'⟩
  · rw [hr] at hsucceeds
    cases hsucceeds
  · obtain ⟨shaders, hdiscover, hnames, -, hvariables, -⟩ := run_variables (by decide) hr
    rw [discover_twins] at hdiscover
    cases hdiscover
    refine ⟨records, w', rfl, hnames, ?_⟩
    rw [hvariables]
    decide

end ShaderBundle
