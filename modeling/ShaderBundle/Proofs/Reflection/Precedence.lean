import ShaderBundle.Proofs.Reflection.Acceptance

/-!
# Which stage counts

Of the fragment stage a reader looks only at the lists that the vertex stage does not have. What it does not look at has
no influence, neither on what is read nor on what is wanting, however it looks.

* `ofStages`: a reader past the document and its two stages.
* `stages_precede`: parts of the fragment stage that do not count, lists that move from one stage to the other, and the
  two choices, each made on its own.
-/

namespace ShaderBundle.Reflection

/-! ## Stages -/

/-- Reads two stages. -/
def ofStages (vs fs : Fields) : Except Problem Reflection := do
  let inputs ← inputsOf vs
  let uniforms ← layoutFrom 0 (← preferred vs fs "uniform_buffers")
  let textures ← (← preferred vs fs "textures").mapM textureOf
  return ⟨inputs, uniforms, textures⟩

theorem ofDocument_object (doc : Fields) : ofDocument (.object doc) =
    (stageOf doc "vs" >>= fun vs => stageOf doc "fs" >>= fun fs => ofStages vs fs) := rfl

/-- The source is an object that holds an object for each stage. -/
def HasStages (source : Source) (vs fs : Fields) : Prop :=
  ∃ doc, source.read = .ok (.object doc) ∧ doc.lookup "vs" = some (.object vs) ∧ doc.lookup "fs" = some (.object fs)

theorem HasStages.read {source : Source} {vs fs : Fields} (h : HasStages source vs fs) :
    read source = ofStages vs fs := by
  obtain ⟨doc, hs, hvs, hfs⟩ := h
  have hstage {key : String} {stage : Fields} (hkey : doc.lookup key = some (.object stage)) :
      stageOf doc key = .ok stage := by
    rw [stageOf, hkey]
    rfl
  have hread : Reflection.read source = ofDocument (.object doc) := by rw [Reflection.read, hs]
  rw [hread, ofDocument_object, hstage hvs, hstage hfs]
  rfl

theorem ofStages_eq_ok {vs fs : Fields} {r : Reflection} : ofStages vs fs = .ok r ↔
    inputsOf vs = .ok r.inputs ∧ (preferred vs fs "uniform_buffers" >>= layoutFrom 0) = .ok r.uniforms ∧
      (preferred vs fs "textures" >>= (·.mapM textureOf)) = .ok r.textures := by
  have hassoc : ofStages vs fs = do
      let inputs ← inputsOf vs
      let uniforms ← preferred vs fs "uniform_buffers" >>= layoutFrom 0
      let textures ← preferred vs fs "textures" >>= (·.mapM textureOf)
      return ⟨inputs, uniforms, textures⟩ := by
    simp only [ofStages, bind_assoc]
  rw [hassoc]
  obtain ⟨inputs, uniforms, textures⟩ := r
  cases inputsOf vs with
  | error p => exact ⟨nofun, fun h => nomatch h.1⟩
  | ok i =>
    cases preferred vs fs "uniform_buffers" >>= layoutFrom 0 with
    | error p => exact ⟨nofun, fun h => nomatch h.2.1⟩
    | ok u =>
      cases preferred vs fs "textures" >>= (·.mapM textureOf) with
      | error p => exact ⟨nofun, fun h => nomatch h.2.2⟩
      | ok t =>
        constructor
        · rintro ⟨⟩
          exact ⟨rfl, rfl, rfl⟩
        · rintro ⟨⟨⟩, ⟨⟩, ⟨⟩⟩
          rfl

/-! ## Looking at a key -/

theorem listOf_congr {e e' : Fields} {key : String} (h : e.lookup key = e'.lookup key) (what : String) :
    listOf e key what = listOf e' key what := by
  rw [listOf, listOf, h]

theorem inputsOf_congr {vs vs' : Fields} (h : vs.lookup "inputs" = vs'.lookup "inputs") :
    inputsOf vs = inputsOf vs' := by
  rw [inputsOf, inputsOf, listOf_congr h]

theorem preferred_congr {vs vs' fs fs' : Fields} {key : String} (hvs : vs.lookup key = vs'.lookup key)
    (hfs : fs.lookup key = fs'.lookup key) : preferred vs fs key = preferred vs' fs' key := by
  rw [preferred, preferred, listOf_congr hvs]
  simp only [listOf_congr hfs]

/-- The list has an entry, whatever that is. -/
def HasEntries (e : Fields) (key : String) : Prop := ∃ item items, e.lookup key = some (.list (item :: items))

/-- The entries of a list that has some are wanting or are there, but they are not none. -/
theorem preferred_of_entries {vs : Fields} {key : String} (h : HasEntries vs key) (fs : Fields) :
    preferred vs fs key = listOf vs key "vs" := by
  obtain ⟨item, items, hlist⟩ := h
  have hentries : entriesAt vs key = item.fields :: items.map Json.fields := by
    rw [entriesAt, valueAt, hlist]
    rfl
  rw [preferred, listOf_answer, hentries]
  unfold answer
  cases List.find? _ _ <;> rfl

/-! ## Lists that move -/

/-- The outcomes are the same but for the stage in what is said of the shape of this list. -/
inductive Restaged (key : String) {α : Type} : Except Problem α → Except Problem α → Prop
  | same (r : Except Problem α) : Restaged key r r
  | list : Restaged key (.error (.notList "fs" key)) (.error (.notList "vs" key))
  | entry : Restaged key (.error (.notObject s!"fs.{key}[]")) (.error (.notObject s!"vs.{key}[]"))

theorem Restaged.bind {key : String} {α β : Type} {x y : Except Problem α} {f g : α → Except Problem β}
    (h : Restaged key x y) (hf : ∀ a, Restaged key (f a) (g a)) : Restaged key (x >>= f) (y >>= g) := by
  cases h with
  | same =>
    cases x with
    | error p => exact .same _
    | ok a => exact hf a
  | list => exact .list
  | entry => exact .entry

theorem objectOf_restaged (key : String) (v : Json) :
    Restaged key (objectOf s!"fs.{key}[]" v) (objectOf s!"vs.{key}[]" v) := by
  cases v with
  | null | object => exact .same _
  | _ => exact .entry

theorem mapM_restaged (key : String) (items : List Json) :
    Restaged key (items.mapM (objectOf s!"fs.{key}[]")) (items.mapM (objectOf s!"vs.{key}[]")) := by
  induction items with
  | nil => exact .same _
  | cons item items ih =>
    rw [List.mapM_cons, List.mapM_cons]
    exact (objectOf_restaged key item).bind fun fields => ih.bind fun rest => .same _

theorem listOf_restaged (e : Fields) (key : String) : Restaged key (listOf e key "fs") (listOf e key "vs") := by
  unfold listOf
  cases (e.lookup key).getD .null with
  | null => exact .same _
  | list items => exact mapM_restaged key items
  | _ => exact .list

/-- The list of the fragment stage stands in the vertex stage, in the place of one without entries, and is gone from
where it was. All else in the two stages is the same. -/
structure Moved (key : String) (vs fs vs' fs' : Fields) : Prop where
  free : vs.lookup key = none ∨ vs.lookup key = some .null ∨ vs.lookup key = some (.list [])
  there : vs'.lookup key = fs.lookup key
  gone : fs'.lookup key = none
  vertex : ∀ k, k ≠ key → vs'.lookup k = vs.lookup k
  fragment : ∀ k, k ≠ key → fs'.lookup k = fs.lookup k

theorem Moved.preferred {key : String} {vs fs vs' fs' : Fields} (h : Moved key vs fs vs' fs') :
    Restaged key (preferred vs fs key) (preferred vs' fs' key) := by
  have hbefore : Reflection.preferred vs fs key = listOf fs key "fs" := by
    have hnone : listOf vs key "vs" = .ok [] := by
      unfold listOf
      rcases h.free with hvs | hvs | hvs <;> rw [hvs] <;> rfl
    rw [Reflection.preferred, hnone]
    rfl
  have hafter : Reflection.preferred vs' fs' key = listOf fs key "vs" := by
    have hgone : listOf fs' key "fs" = .ok [] := by
      rw [listOf, h.gone]
      rfl
    rw [Reflection.preferred, listOf_congr h.there]
    cases listOf fs key "vs" with
    | error p => rfl
    | ok entries =>
      cases entries with
      | nil => exact hgone
      | cons e entries => rfl
  rw [hbefore, hafter]
  exact listOf_restaged fs key

/-! ## The two choices -/

/-- What a reader looks at of two stages for the inputs and for the uniform blocks is the same. -/
structure SameUniforms (vs fs vs' fs' : Fields) : Prop where
  inputs : vs.lookup "inputs" = vs'.lookup "inputs"
  vertex : vs.lookup "uniform_buffers" = vs'.lookup "uniform_buffers"
  fragment : fs.lookup "uniform_buffers" = fs'.lookup "uniform_buffers"

structure SameTextures (vs fs vs' fs' : Fields) : Prop where
  vertex : vs.lookup "textures" = vs'.lookup "textures"
  fragment : fs.lookup "textures" = fs'.lookup "textures"

/-- What does not count of a fragment stage, if this is the vertex stage. -/
def Uncounted (vs : Fields) (key : String) : Prop :=
  key = "inputs" ∨ (key = "uniform_buffers" ∨ key = "textures") ∧ HasEntries vs key

theorem preferred_uncounted {vs fs fs' : Fields} {key : String} (hkey : key = "uniform_buffers" ∨ key = "textures")
    (h : ∀ k, ¬Uncounted vs k → fs.lookup k = fs'.lookup k) : preferred vs fs key = preferred vs fs' key := by
  by_cases hentries : HasEntries vs key
  · rw [preferred_of_entries hentries, preferred_of_entries hentries]
  · have hcounted : ¬Uncounted vs key := by
      rintro (rfl | ⟨-, hentries'⟩)
      · exact absurd hkey (by decide)
      · exact hentries hentries'
    exact preferred_congr rfl (h key hcounted)

theorem ofStages_uncounted {vs fs fs' : Fields} (h : ∀ k, ¬Uncounted vs k → fs.lookup k = fs'.lookup k) :
    ofStages vs fs = ofStages vs fs' := by
  rw [ofStages, ofStages, preferred_uncounted (.inl rfl) h, preferred_uncounted (.inr rfl) h]

theorem ofStages_moved {key : String} {vs fs vs' fs' : Fields} (hkey : key = "uniform_buffers" ∨ key = "textures")
    (h : Moved key vs fs vs' fs') : Restaged key (ofStages vs fs) (ofStages vs' fs') := by
  have hinputs : inputsOf vs' = inputsOf vs := inputsOf_congr (h.vertex _ (by rcases hkey with rfl | rfl <;> decide))
  unfold ofStages
  rw [hinputs]
  refine (Restaged.same _).bind fun inputs => ?_
  rcases hkey with rfl | rfl
  · have htextures : preferred vs' fs' "textures" = preferred vs fs "textures" :=
      preferred_congr (h.vertex _ (by decide)) (h.fragment _ (by decide))
    rw [htextures]
    exact h.preferred.bind fun blocks => .same _
  · have huniforms : preferred vs' fs' "uniform_buffers" = preferred vs fs "uniform_buffers" :=
      preferred_congr (h.vertex _ (by decide)) (h.fragment _ (by decide))
    rw [huniforms]
    exact (Restaged.same _).bind fun blocks => (Restaged.same _).bind fun uniforms =>
      h.preferred.bind fun entries => .same _

theorem ofStages_mixed {vs fs vs₁ fs₁ vs₂ fs₂ : Fields} {r₁ r₂ : Reflection} (huniforms : SameUniforms vs fs vs₁ fs₁)
    (htextures : SameTextures vs fs vs₂ fs₂) (h₁ : ofStages vs₁ fs₁ = .ok r₁) (h₂ : ofStages vs₂ fs₂ = .ok r₂) :
    ofStages vs fs = .ok ⟨r₁.inputs, r₁.uniforms, r₂.textures⟩ := by
  rw [ofStages_eq_ok] at h₁ h₂ ⊢
  rw [inputsOf_congr huniforms.inputs, preferred_congr huniforms.vertex huniforms.fragment,
    preferred_congr htextures.vertex htextures.fragment]
  exact ⟨h₁.1, h₁.2.1, h₂.2.2⟩

/-- The inputs of the fragment stage have no influence on what is read or what is wanting, and nor has a list of it for
which the vertex stage has one with entries. Where the vertex stage has none, the list of the fragment stage counts as
if it stood there. The uniform blocks and the textures are chosen each for themselves: a document made of the inputs and
uniform lists of one accepted document and the texture lists of another is accepted, with what they give. -/
theorem stages_precede {s s' : Source} {vs fs vs' fs' : Fields} (hs : HasStages s vs fs) (hs' : HasStages s' vs' fs') :
    (vs = vs' → (∀ key, ¬Uncounted vs key → fs.lookup key = fs'.lookup key) → read s = read s') ∧
    (∀ key, key = "uniform_buffers" ∨ key = "textures" → Moved key vs fs vs' fs' →
      Restaged key (read s) (read s')) ∧
    ∀ {t : Source} {vst fst : Fields}, HasStages t vst fst → SameUniforms vst fst vs fs → SameTextures vst fst vs' fs' →
      ∀ r r', read s = .ok r → read s' = .ok r' → read t = .ok ⟨r.inputs, r.uniforms, r'.textures⟩ := by
  rw [hs.read, hs'.read]
  refine ⟨?_, fun key hkey hmoved => ofStages_moved hkey hmoved, fun ht huniforms htextures r r' hr hr' => ?_⟩
  · rintro rfl hagree
    exact ofStages_uncounted hagree
  · rw [ht.read]
    exact ofStages_mixed huniforms htextures hr hr'

/-! A uniform list of the vertex stage, over an odd one and odd inputs of the fragment stage; the textures may stand in
either stage. -/

def blockField : String × Json := ("uniform_buffers", .list [.object [("block_size", .integer 4)]])

def textureField : String × Json := ("textures", .list [.object [("name", .text "t")]])

def oddSource : Source :=
  .text ("\x7b\"vs\":\x7b\"uniform_buffers\":[\x7b\"block_size\":4\x7d]\x7d,\"fs\":\x7b\"inputs\":3," ++
    "\"uniform_buffers\":7,\"textures\":[\x7b\"name\":\"t\"\x7d]\x7d\x7d")

def plainSource : Source :=
  .text ("\x7b\"vs\":\x7b\"uniform_buffers\":[\x7b\"block_size\":4\x7d]\x7d," ++
    "\"fs\":\x7b\"textures\":[\x7b\"name\":\"t\"\x7d]\x7d\x7d")

def movedSource : Source :=
  .text ("\x7b\"vs\":\x7b\"uniform_buffers\":[\x7b\"block_size\":4\x7d]," ++
    "\"textures\":[\x7b\"name\":\"t\"\x7d]\x7d,\"fs\":\x7b\x7d\x7d")

theorem hasStages_of_same {source : Source} {vs fs : Fields}
    (h : source.read.toOption.any (Json.object [("vs", .object vs), ("fs", .object fs)]).same = true) :
    HasStages source vs fs :=
  ⟨_, read_of_same h, rfl, rfl⟩

theorem hasStages_odd : HasStages oddSource [blockField]
    [("inputs", .integer 3), ("uniform_buffers", .integer 7), textureField] :=
  hasStages_of_same (by decide +kernel)

theorem hasStages_plain : HasStages plainSource [blockField] [textureField] :=
  hasStages_of_same (by decide +kernel)

theorem hasStages_moved : HasStages movedSource [blockField, textureField] [] :=
  hasStages_of_same (by decide +kernel)

theorem stages_precede_odd : read plainSource = read oddSource ∧
    Restaged "textures" (read plainSource) (read movedSource) ∧
    ∃ r r', read plainSource = .ok r ∧ read oddSource = .ok r' ∧
      read plainSource = .ok ⟨r.inputs, r.uniforms, r'.textures⟩ := by
  obtain ⟨hcounted, -, hmixed⟩ := stages_precede hasStages_plain hasStages_odd
  obtain ⟨-, hmoved, -⟩ := stages_precede hasStages_plain hasStages_moved
  refine ⟨hcounted rfl fun key hkey => ?_, hmoved _ (.inr rfl) ⟨.inl rfl, rfl, rfl, fun k hk => ?_, fun k hk => ?_⟩, ?_⟩
  · have hinputs : key ≠ "inputs" := fun h => hkey (.inl h)
    have huniforms : key ≠ "uniform_buffers" := by
      rintro rfl
      exact hkey (.inr ⟨.inl rfl, _, _, rfl⟩)
    simp [List.lookup_cons, beq_eq_false_iff_ne.mpr hinputs, beq_eq_false_iff_ne.mpr huniforms]
  · simp [blockField, textureField, List.lookup_cons, beq_eq_false_iff_ne.mpr hk]
  · simp [textureField, List.lookup_cons, beq_eq_false_iff_ne.mpr hk]
  · obtain ⟨r, hr⟩ := exists_of_toBool (r := read plainSource) (by decide +kernel)
    obtain ⟨r', hr'⟩ := exists_of_toBool (r := read oddSource) (by decide +kernel)
    exact ⟨r, r', hr, hr', hmixed hasStages_plain ⟨rfl, rfl, rfl⟩ ⟨rfl, rfl⟩ r r' hr hr'⟩

end ShaderBundle.Reflection
