import Mathlib.Data.List.Forall2
import Mathlib.Logic.Relation
import ShaderBundle.Proofs.Reflection.Precedence

/-!
# Missing and unknown keys

A key that is missing stands for zero, for an empty text, list or object. A key that is not asked for stands for
nothing. So a document may gain keys of the first kind and gain or lose keys of the second, wherever its objects stand,
and the outcome stays: what is read, and else what is wanting.

* `Edit`: one such change, to the document or to an object in it.
* `read_edited`: documents that differ by such changes have the same outcome.
-/

namespace ShaderBundle.Reflection

/-! ## Roles -/

/-- What an object of a document is read as. -/
inductive Role
  | document | vertexStage | fragmentStage | input | block | member | texture

namespace Role

/-- The keys that are read of an object, each with what it stands for where it is missing. -/
def defaults : Role → Fields
  | .document => [("vs", .object []), ("fs", .object [])]
  | .vertexStage => [("inputs", .list []), ("uniform_buffers", .list []), ("textures", .list [])]
  | .fragmentStage => [("uniform_buffers", .list []), ("textures", .list [])]
  | .input =>
    [("type", .text ""), ("name", .text ""), ("location", .integer 0), ("semantic", .text ""),
      ("semantic_index", .integer 0)]
  | .block =>
    [("id", .integer 0), ("name", .text ""), ("binding", .integer 0), ("members", .list []), ("block_size", .integer 0)]
  | .member => [("type", .text ""), ("name", .text ""), ("offset", .integer 0)]
  | .texture => [("name", .text ""), ("binding", .integer 0)]

/-- The keys under which an object is read, and its role. -/
def objects : Role → List (String × Role)
  | .document => [("vs", .vertexStage), ("fs", .fragmentStage)]
  | _ => []

/-- The keys under which a list of objects is read, and their role. -/
def lists : Role → List (String × Role)
  | .vertexStage => [("inputs", .input), ("uniform_buffers", .block), ("textures", .texture)]
  | .fragmentStage => [("uniform_buffers", .block), ("textures", .texture)]
  | .block => [("members", .member)]
  | _ => []

end Role

/-- The objects are the same but for this key. -/
def SameBut (key : String) (e e' : Fields) : Prop := ∀ k, k ≠ key → e'.lookup k = e.lookup k

/-- A change to an object of this role, or to an object in it. -/
inductive Edit : Role → Fields → Fields → Prop
  /-- A key that was missing is there, with what it stands for. -/
  | default {role : Role} {e e' : Fields} {key : String} {v : Json} (hread : role.defaults.lookup key = some v)
      (hmissing : e.lookup key = none) (hput : e'.lookup key = some v) (hrest : SameBut key e e') : Edit role e e'
  /-- A key that is not read is put in, taken out or changed. -/
  | unread {role : Role} {e e' : Fields} {key : String} (hunread : role.defaults.lookup key = none)
      (hrest : SameBut key e e') : Edit role e e'
  | object {role inner : Role} {e e' f f' : Fields} {key : String} (hkey : role.objects.lookup key = some inner)
      (hbefore : e.lookup key = some (.object f)) (hafter : e'.lookup key = some (.object f'))
      (hrest : SameBut key e e') (hinner : Edit inner f f') : Edit role e e'
  | entry {role inner : Role} {e e' f f' : Fields} {key : String} {front back : List Json}
      (hkey : role.lists.lookup key = some inner) (hbefore : e.lookup key = some (.list (front ++ .object f :: back)))
      (hafter : e'.lookup key = some (.list (front ++ .object f' :: back))) (hrest : SameBut key e e')
      (hinner : Edit inner f f') : Edit role e e'

/-! ## Objects that read alike -/

/-- Both objects have the same outcome, read in this role. A block is read with those behind it. -/
def Alike : Role → Fields → Fields → Prop
  | .document, e, e' => ofDocument (.object e) = ofDocument (.object e')
  | .vertexStage, e, e' => ∀ fs, ofStages e fs = ofStages e' fs
  | .fragmentStage, e, e' => ∀ vs, ofStages vs e = ofStages vs e'
  | .input, e, e' => inputOf e = inputOf e'
  | .block, e, e' => ∀ start rest, layoutFrom start (e :: rest) = layoutFrom start (e' :: rest)
  | .member, e, e' => ∀ id start, memberOf id start e = memberOf id start e'
  | .texture, e, e' => textureOf e = textureOf e'

theorem Alike.refl (role : Role) (e : Fields) : Alike role e e := by
  cases role <;> simp only [Alike, implies_true]

/-- What stands under a key of two objects: the same, or on one side nothing and on the other what that stands for, or
objects that read alike, or lists with objects in one place that do. -/
inductive ValueAlike (role : Role) (key : String) : Option Json → Option Json → Prop
  | same (v : Option Json) : ValueAlike role key v v
  | default {v : Json} (hread : role.defaults.lookup key = some v) : ValueAlike role key none (some v)
  | object {inner : Role} {f f' : Fields} (hkey : role.objects.lookup key = some inner) (halike : Alike inner f f') :
      ValueAlike role key (some (.object f)) (some (.object f'))
  | entry {inner : Role} {f f' : Fields} {front back : List Json} (hkey : role.lists.lookup key = some inner)
      (halike : Alike inner f f') :
      ValueAlike role key (some (.list (front ++ .object f :: back))) (some (.list (front ++ .object f' :: back)))

section
variable {role inner : Role} {e e' : Fields} {key : String}

/-- Where no objects are read, what stands under the key is the same, or was missing and is what that stands for. -/
theorem ValueAlike.plain {v v' : Option Json} (h : ValueAlike role key v v') (ho : role.objects.lookup key = none)
    (hl : role.lists.lookup key = none) : v = v' ∨ v = none ∧ v' = role.defaults.lookup key := by
  cases h with
  | same => exact .inl rfl
  | default hread => exact .inr ⟨rfl, hread.symm⟩
  | object hkey => cases ho.symm.trans hkey
  | entry hkey => cases hl.symm.trans hkey

theorem textOf_alike (h : ValueAlike role key (e.lookup key) (e'.lookup key))
    (hd : role.defaults.lookup key = some (.text "")) (ho : role.objects.lookup key = none)
    (hl : role.lists.lookup key = none) : textOf e key = textOf e' key := by
  rcases h.plain ho hl with heq | ⟨hnone, hdefault⟩
  · rw [textOf, textOf, heq]
  · rw [textOf, textOf, hnone, hdefault, hd]

theorem integerOf_alike (h : ValueAlike role key (e.lookup key) (e'.lookup key))
    (hd : role.defaults.lookup key = some (.integer 0)) (ho : role.objects.lookup key = none)
    (hl : role.lists.lookup key = none) : integerOf e key = integerOf e' key := by
  rcases h.plain ho hl with heq | ⟨hnone, hdefault⟩
  · rw [integerOf, integerOf, heq]
  · rw [integerOf, integerOf, hnone, hdefault, hd]

/-- Both fail for the same reason, or give results in this relation. -/
inductive Outcomes {α β : Type} (R : α → β → Prop) : Except Problem α → Except Problem β → Prop
  | ok {a : α} {b : β} (h : R a b) : Outcomes R (.ok a) (.ok b)
  | error (p : Problem) : Outcomes R (.error p) (.error p)

theorem Outcomes.refl {α : Type} {R : α → α → Prop} (hR : ∀ a, R a a) (r : Except Problem α) : Outcomes R r r := by
  cases r with
  | ok a => exact .ok (hR a)
  | error p => exact .error p

theorem Outcomes.bind {α β γ δ : Type} {R : α → β → Prop} {S : γ → δ → Prop} {x : Except Problem α}
    {y : Except Problem β} {f : α → Except Problem γ} {g : β → Except Problem δ} (h : Outcomes R x y)
    (hf : ∀ a b, R a b → Outcomes S (f a) (g b)) : Outcomes S (x >>= f) (y >>= g) := by
  cases h with
  | ok hab => exact hf _ _ hab
  | error p => exact .error p

theorem Outcomes.bind_eq {α β γ : Type} {R : α → β → Prop} {x : Except Problem α} {y : Except Problem β}
    {f : α → Except Problem γ} {g : β → Except Problem γ} (h : Outcomes R x y) (hf : ∀ a b, R a b → f a = g b) :
    x >>= f = y >>= g := by
  cases h with
  | ok hab => exact hf _ _ hab
  | error p => rfl

theorem alike_entries_refl (entries : List Fields) : List.Forall₂ (Alike inner) entries entries :=
  List.forall₂_same.mpr fun e _ => Alike.refl inner e

/-- A list with one object changed fails where it failed before, or differs in one of its entries. -/
theorem mapM_alike {what : String} {f f' : Fields} (halike : Alike inner f f') (front back : List Json) :
    Outcomes (List.Forall₂ (Alike inner)) ((front ++ .object f :: back).mapM (objectOf what))
      ((front ++ .object f' :: back).mapM (objectOf what)) := by
  rw [List.mapM_append, List.mapM_append, List.mapM_cons, List.mapM_cons]
  cases front.mapM (objectOf what) with
  | error p => exact .error p
  | ok before =>
    cases hback : back.mapM (objectOf what) with
    | error p => exact .error p
    | ok after =>
      exact .ok (List.rel_append (alike_entries_refl before) (.cons halike (alike_entries_refl after)))

theorem listOf_alike (h : ValueAlike role key (e.lookup key) (e'.lookup key))
    (hd : role.defaults.lookup key = some (.list [])) (ho : role.objects.lookup key = none)
    (hl : role.lists.lookup key = some inner) (what : String) :
    Outcomes (List.Forall₂ (Alike inner)) (listOf e key what) (listOf e' key what) := by
  unfold listOf
  generalize e.lookup key = v, e'.lookup key = v' at h
  cases h with
  | same => exact .refl alike_entries_refl _
  | default hread =>
    cases hd.symm.trans hread
    exact .ok .nil
  | object hkey => cases ho.symm.trans hkey
  | entry hkey halike =>
    cases hl.symm.trans hkey
    exact mapM_alike halike _ _

theorem stageOf_alike (h : ValueAlike role key (e.lookup key) (e'.lookup key))
    (hd : role.defaults.lookup key = some (.object [])) (ho : role.objects.lookup key = some inner)
    (hl : role.lists.lookup key = none) : Outcomes (Alike inner) (stageOf e key) (stageOf e' key) := by
  unfold stageOf
  generalize e.lookup key = v, e'.lookup key = v' at h
  cases h with
  | same => exact .refl (Alike.refl inner) _
  | default hread =>
    cases hd.symm.trans hread
    exact .ok (Alike.refl inner [])
  | object hkey halike =>
    cases ho.symm.trans hkey
    exact .ok halike
  | entry hkey => cases hl.symm.trans hkey

end

/-! ## Lists and stages -/

theorem mapM_congr {α : Type} {f : Fields → Except Problem α} {entries entries' : List Fields}
    (h : List.Forall₂ (fun e e' => f e = f e') entries entries') : entries.mapM f = entries'.mapM f := by
  induction h with
  | nil => rfl
  | cons he _ ih => rw [List.mapM_cons, List.mapM_cons, he, ih]

theorem layoutFrom_alike {blocks blocks' : List Fields} (h : List.Forall₂ (Alike .block) blocks blocks') (start : Int) :
    layoutFrom start blocks = layoutFrom start blocks' := by
  induction h generalizing start with
  | nil => rfl
  | @cons b b' rest rest' hb _ ih =>
    have hrest : layoutFrom start (b' :: rest) = layoutFrom start (b' :: rest') := by simp only [layoutFrom, ih]
    exact (hb start rest).trans hrest

theorem preferred_alike {role : Role} {vs vs' fs fs' : Fields} {key : String}
    (hvs : Outcomes (List.Forall₂ (Alike role)) (listOf vs key "vs") (listOf vs' key "vs"))
    (hfs : Outcomes (List.Forall₂ (Alike role)) (listOf fs key "fs") (listOf fs' key "fs")) :
    Outcomes (List.Forall₂ (Alike role)) (preferred vs fs key) (preferred vs' fs' key) := by
  refine hvs.bind fun entries entries' hentries => ?_
  cases hentries with
  | nil => exact hfs
  | cons he hrest => exact .ok (.cons he hrest)

theorem ofStages_alike {vs vs' fs fs' : Fields} (hinputs : inputsOf vs = inputsOf vs')
    (huniforms : Outcomes (List.Forall₂ (Alike .block)) (preferred vs fs "uniform_buffers")
      (preferred vs' fs' "uniform_buffers"))
    (htextures : Outcomes (List.Forall₂ (Alike .texture)) (preferred vs fs "textures") (preferred vs' fs' "textures")) :
    ofStages vs fs = ofStages vs' fs' := by
  unfold ofStages
  rw [hinputs]
  refine bind_congr fun inputs => huniforms.bind_eq fun blocks blocks' hblocks => ?_
  rw [layoutFrom_alike hblocks]
  refine bind_congr fun uniforms => htextures.bind_eq fun entries entries' hentries => ?_
  rw [mapM_congr hentries]

/-! ## Changes -/

/-- Objects whose values read alike under every key that counts read alike. -/
theorem alike_of_values {role : Role} {e e' : Fields}
    (h : ∀ key, (role.defaults.lookup key).isSome → ValueAlike role key (e.lookup key) (e'.lookup key)) :
    Alike role e e' := by
  cases role with
  | document =>
    refine (stageOf_alike (h "vs" rfl) rfl rfl rfl).bind_eq fun vs vs' hvs => ?_
    exact (stageOf_alike (h "fs" rfl) rfl rfl rfl).bind_eq fun fs fs' hfs => (hvs fs).trans (hfs vs')
  | vertexStage =>
    intro fs
    have hinputs : inputsOf e = inputsOf e' :=
      (listOf_alike (h "inputs" rfl) rfl rfl rfl "vs").bind_eq fun entries entries' hentries => by
        rw [mapM_congr hentries]
    exact ofStages_alike hinputs
      (preferred_alike (listOf_alike (h "uniform_buffers" rfl) rfl rfl rfl "vs") (.refl alike_entries_refl _))
      (preferred_alike (listOf_alike (h "textures" rfl) rfl rfl rfl "vs") (.refl alike_entries_refl _))
  | fragmentStage =>
    intro vs
    exact ofStages_alike rfl
      (preferred_alike (.refl alike_entries_refl _) (listOf_alike (h "uniform_buffers" rfl) rfl rfl rfl "fs"))
      (preferred_alike (.refl alike_entries_refl _) (listOf_alike (h "textures" rfl) rfl rfl rfl "fs"))
  | input =>
    simp only [Alike, inputOf, typeOf, textOf_alike (h "type" rfl) rfl rfl rfl, textOf_alike (h "name" rfl) rfl rfl rfl,
      integerOf_alike (h "location" rfl) rfl rfl rfl, textOf_alike (h "semantic" rfl) rfl rfl rfl,
      integerOf_alike (h "semantic_index" rfl) rfl rfl rfl]
  | block =>
    intro start rest
    unfold layoutFrom
    rw [integerOf_alike (h "id" rfl) rfl rfl rfl, textOf_alike (h "name" rfl) rfl rfl rfl,
      integerOf_alike (h "binding" rfl) rfl rfl rfl, integerOf_alike (h "block_size" rfl) rfl rfl rfl]
    refine bind_congr fun id => bind_congr fun name => bind_congr fun binding => ?_
    refine (listOf_alike (h "members" rfl) rfl rfl rfl _).bind_eq fun entries entries' hentries => ?_
    rw [mapM_congr (hentries.imp fun _ _ hmember => hmember id start)]
  | member =>
    intro id start
    simp only [memberOf, typeOf, textOf_alike (h "type" rfl) rfl rfl rfl, textOf_alike (h "name" rfl) rfl rfl rfl,
      integerOf_alike (h "offset" rfl) rfl rfl rfl]
  | texture =>
    simp only [Alike, textureOf, textOf_alike (h "name" rfl) rfl rfl rfl, integerOf_alike (h "binding" rfl) rfl rfl rfl]

theorem SameBut.alike {role : Role} {e e' : Fields} {key : String} (h : SameBut key e e')
    (hkey : (role.defaults.lookup key).isSome → ValueAlike role key (e.lookup key) (e'.lookup key)) :
    Alike role e e' := by
  refine alike_of_values fun k hk => ?_
  by_cases he : k = key
  · subst he
    exact hkey hk
  · rw [h k he]
    exact .same _

/-- Induction on where the change stands: the objects around it read alike if it leaves the innermost one reading
alike. -/
theorem Edit.alike {role : Role} {e e' : Fields} (h : Edit role e e') : Alike role e e' := by
  induction h with
  | default hread hmissing hput hrest =>
    refine hrest.alike fun _ => ?_
    rw [hmissing, hput]
    exact .default hread
  | unread hunread hrest =>
    refine hrest.alike fun hread => ?_
    rw [hunread] at hread
    cases hread
  | object hkey hbefore hafter hrest _ ih =>
    refine hrest.alike fun _ => ?_
    rw [hbefore, hafter]
    exact .object hkey ih
  | entry hkey hbefore hafter hrest _ ih =>
    refine hrest.alike fun _ => ?_
    rw [hbefore, hafter]
    exact .entry hkey ih

/-- Documents that differ in keys with what they would stand for anyway, and in keys that nothing reads, have the same
outcome: the same reflection, or the same thing wanting. -/
theorem read_edited {s s' : Source} {e e' : Fields} (hs : s.read = .ok (.object e)) (hs' : s'.read = .ok (.object e'))
    (h : Relation.EqvGen (Edit .document) e e') : read s = read s' := by
  rw [read, read, hs, hs']
  change ofDocument (.object e) = ofDocument (.object e')
  clear hs hs'
  induction h with
  | rel _ _ h => exact h.alike
  | refl => rfl
  | symm _ _ _ ih => exact ih.symm
  | trans _ _ _ _ _ ih ih' => exact ih.trans ih'

/-! A texture with an odd name gains an unknown key, and the document an empty texture list in front of it. -/

def sparseSource : Source := .text "\x7b\"fs\":\x7b\"textures\":[\x7b\"name\":3\x7d]\x7d\x7d"

def filledSource : Source :=
  .text ("\x7b\"fs\":\x7b\"textures\":[\x7b\"name\":3,\"id\":4\x7d]\x7d," ++
    "\"vs\":\x7b\"textures\":[]\x7d\x7d")

def sparse : Fields := [("fs", .object [("textures", .list [.object [("name", .integer 3)]])])]

def labelled : Fields := [("fs", .object [("textures", .list [.object [("name", .integer 3), ("id", .integer 4)]])])]

theorem sameBut_cons (key : String) (v v' : Json) (e : Fields) : SameBut key ((key, v) :: e) ((key, v') :: e) := by
  intro k hk
  simp [List.lookup_cons, beq_eq_false_iff_ne.mpr hk]

theorem sameBut_append (key : String) (v : Json) (e : Fields) : SameBut key e (e ++ [(key, v)]) := by
  intro k hk
  simp [List.lookup_append, List.lookup_cons, beq_eq_false_iff_ne.mpr hk]

theorem edit_labelled : Edit .document sparse labelled :=
  have hentry : Edit .fragmentStage [("textures", .list [.object [("name", .integer 3)]])]
      [("textures", .list [.object [("name", .integer 3), ("id", .integer 4)]])] :=
    @Edit.entry _ .texture _ _ _ _ "textures" [] [] rfl rfl rfl (sameBut_cons _ _ _ [])
      (@Edit.unread _ _ _ "id" rfl (sameBut_append _ _ _))
  @Edit.object _ .fragmentStage _ _ _ _ "fs" rfl rfl rfl (sameBut_cons _ _ _ []) hentry

theorem edit_filled :
    Edit .document (labelled ++ [("vs", .object [])]) (labelled ++ [("vs", .object [("textures", .list [])])]) :=
  have hput : Edit .vertexStage [] [("textures", .list [])] :=
    @Edit.default _ _ _ "textures" _ rfl rfl rfl (sameBut_append _ _ [])
  @Edit.object _ .vertexStage _ _ _ _ "vs" rfl rfl rfl (fun k hk => by
    simp [List.lookup_append, List.lookup_cons, beq_eq_false_iff_ne.mpr hk]) hput

theorem edited_filled :
    Relation.EqvGen (Edit .document) sparse (labelled ++ [("vs", .object [("textures", .list [])])]) :=
  have hvs : Edit .document labelled (labelled ++ [("vs", .object [])]) :=
    @Edit.default _ _ _ "vs" _ rfl rfl rfl (sameBut_append _ _ _)
  .trans _ _ _ (.rel _ _ edit_labelled) (.trans _ _ _ (.rel _ _ hvs) (.rel _ _ edit_filled))

theorem read_filled : Relation.EqvGen (Edit .document) sparse (labelled ++ [("vs", .object [("textures", .list [])])]) ∧
    read sparseSource = read filledSource :=
  ⟨edited_filled, read_edited (read_of_same (by decide +kernel)) (read_of_same (by decide +kernel)) edited_filled⟩

end ShaderBundle.Reflection
