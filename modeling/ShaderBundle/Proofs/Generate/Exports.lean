import ShaderBundle.Proofs.Generate.Reports
import ShaderBundle.Proofs.Go.Lossless

/-!
# Exported variants

A shader that is the same in all variants is exported once, any other with all of them. Whether it is the same is seen
from its first two variants: where these agree, a later variant that differs is not exported.

* `Overlooks`: records of which a variant that differs is left out.
* `exported_exact`: what is exported of a record, and that its declaration holds just that.
-/

namespace ShaderBundle

namespace ShaderRecord

/-- All variants have one text in GLSL ES 1.00. -/
def Alike (r : ShaderRecord) : Prop := ∀ s ∈ r.variants, ∀ t ∈ r.variants, s.glsl100es = t.glsl100es

instance (r : ShaderRecord) : Decidable r.Alike := inferInstanceAs (Decidable (∀ s ∈ r.variants, _))

/-- The first variant if all are alike, else all of them. -/
def due (r : ShaderRecord) : List VariantSources := if r.Alike then r.variants.take 1 else r.variants

/-- The first two variants are alike, and a later one is not like them. -/
def Overlooks (r : ShaderRecord) : Prop :=
  ∃ a b rest, r.variants = a :: b :: rest ∧ a.glsl100es = b.glsl100es ∧ ∃ s ∈ rest, s.glsl100es ≠ a.glsl100es

variable {r : ShaderRecord}

theorem alike_iff {a : VariantSources} {rest : List VariantSources} (h : r.variants = a :: rest) :
    r.Alike ↔ ∀ s ∈ rest, s.glsl100es = a.glsl100es := by
  unfold Alike
  rw [h]
  constructor
  · exact fun hall s hs => hall s (List.mem_cons_of_mem a hs) a List.mem_cons_self
  · intro hall s hs t ht
    have hfirst : ∀ s ∈ a :: rest, s.glsl100es = a.glsl100es := List.forall_mem_cons.mpr ⟨rfl, hall⟩
    rw [hfirst s hs, hfirst t ht]

theorem not_alike_of_overlooks (h : r.Overlooks) : ¬r.Alike := by
  obtain ⟨a, b, rest, hvariants, -, s, hs, hne⟩ := h
  rw [alike_iff hvariants]
  exact fun hall => hne (hall s (List.mem_cons_of_mem b hs))

theorem exported_cons_cons {a b : VariantSources} {rest : List VariantSources} (h : r.variants = a :: b :: rest) :
    r.exported = if a.glsl100es = b.glsl100es then [a] else r.variants := by
  rw [exported, isMultiVariant, h]
  by_cases hsame : a.glsl100es = b.glsl100es
  · simp [hsame]
  · simp [hsame]

theorem exported_of_overlooks (h : r.Overlooks) : r.exported = r.variants.take 1 := by
  obtain ⟨a, b, rest, hvariants, hsame, -⟩ := h
  rw [exported_cons_cons hvariants, if_pos hsame, hvariants, List.take_succ_cons, List.take_zero]

theorem exported_of_isMultiVariant (hm : r.isMultiVariant = true) : ∃ a b rest, r.exported = a :: b :: rest := by
  rw [exported, if_pos hm]
  unfold isMultiVariant at hm
  split at hm
  · next a b rest hvariants => exact ⟨a, b, rest, hvariants⟩
  · cases hm

/-- What is exported is what is due, unless a variant is overlooked. -/
theorem exported_eq_due_iff (hv : r.variants ≠ []) : r.exported = r.due ↔ ¬r.Overlooks := by
  constructor
  · intro h hover
    rw [exported_of_overlooks hover, due, if_neg (not_alike_of_overlooks hover)] at h
    obtain ⟨a, b, rest, hvariants, -⟩ := hover
    rw [hvariants] at h
    cases h
  · intro hover
    cases hvariants : r.variants with
    | nil => exact absurd hvariants hv
    | cons a rest =>
      cases rest with
      | nil =>
        have hall : r.Alike := (alike_iff hvariants).mpr fun s hs => absurd hs List.not_mem_nil
        rw [due, if_pos hall, exported, isMultiVariant, hvariants]
        rfl
      | cons b rest =>
        -- Only the second variant decides what is exported, so a later one that differs would be overlooked.
        have halike := (alike_iff hvariants).trans List.forall_mem_cons
        rw [exported_cons_cons hvariants, due]
        by_cases hsame : a.glsl100es = b.glsl100es
        · have hrest : ∀ s ∈ rest, s.glsl100es = a.glsl100es := fun s hs =>
            Decidable.byContradiction fun hne => hover ⟨a, b, rest, hvariants, hsame, s, hs, hne⟩
          rw [if_pos hsame, if_pos (halike.mpr ⟨hsame.symm, hrest⟩), hvariants, List.take_succ_cons, List.take_zero]
        · rw [if_neg hsame, if_neg fun hall => hsame (halike.mp hall).1.symm]

end ShaderRecord

/-! ## Declarations -/

namespace Go

/-- A literal as an element: a comma stands behind its last line. -/
def elementLines (literal : List String) : List String :=
  literal.dropLast ++ (literal.getLast?.map (· ++ ",")).toList

/-- The declaration of a variable from the literals of its variants. One literal is opened behind the name, several
are the elements of an array. -/
def declaration (name indent : String) : List (List String) → List String
  | [literal] => (indent ++ name ++ " = backend.ShaderSources\x7b") :: literal.tail
  | literals =>
    (indent ++ name ++ " = [...]backend.ShaderSources\x7b") :: literals.flatMap elementLines ++ [indent ++ "\x7d"]

theorem mapM_emitSources (indent : String) (variants : List VariantSources) :
    variants.mapM (emitSources · indent) =
      (variants.forM checkSources).map fun _ => variants.map (sourceLines "" "" · indent) := by
  induction variants with
  | nil => rfl
  | cons s variants ih =>
    rw [List.mapM_cons, ih, List.forM, emitSources]
    -- Both loops stop at the first variant that is refused.
    cases checkSources s with
    | error e => rfl
    | ok u =>
      change ((variants.forM checkSources).map _ >>= _) = (variants.forM checkSources).map _
      cases variants.forM checkSources <;> rfl

theorem declaration_single (name indent : String) (s : VariantSources) :
    declaration name indent [sourceLines "" "" s indent] =
      sourceLines s!"{name} = backend.ShaderSources" "" s indent := by
  simp [declaration, sourceLines, toString_string, String.append_assoc]

theorem elementLines_sourceLines (s : VariantSources) (indent : String) :
    elementLines (sourceLines "" "" s indent) = sourceLines "" "," s indent := by
  rw [elementLines, sourceLines, sourceLines, ← List.cons_append, ← List.cons_append, List.dropLast_concat,
    List.getLast?_concat]
  simp only [String.append_empty, Option.map_some, Option.toList_some]

/-- The lines of a record are the declaration of its exported variants. -/
theorem recordLines_eq {r : ShaderRecord} (hv : r.variants ≠ []) (indent : String) :
    recordLines r indent = declaration r.variableName indent
      (r.exported.map (sourceLines "" "" · (if r.exported.length = 1 then indent else indent ++ "\t"))) := by
  cases hm : r.isMultiVariant with
  | true =>
    obtain ⟨a, b, rest, hexported⟩ := ShaderRecord.exported_of_isMultiVariant hm
    have hseveral : r.exported.length ≠ 1 := by simp [hexported]
    have hlines : r.exported.flatMap (sourceLines "" "," · (indent ++ "\t")) =
        (r.exported.map (sourceLines "" "" · (indent ++ "\t"))).flatMap elementLines := by
      simp only [List.flatMap_map, elementLines_sourceLines]
    rw [if_neg hseveral, recordLines, if_pos hm, hlines, hexported]
    rfl
  | false =>
    rw [recordLines, hm, if_neg Bool.false_ne_true, exported_eq_singleton hv hm, List.flatMap_singleton]
    exact (declaration_single r.variableName indent _).symm

/-- Each variant that is exported is written by itself, in order, and the declaration holds these literals. -/
theorem emitRecord_eq {r : ShaderRecord} (hv : r.variants ≠ []) (indent : String) :
    emitRecord r indent =
      (r.exported.mapM (emitSources · (if r.exported.length = 1 then indent else indent ++ "\t"))).map
        (declaration r.variableName indent) := by
  have hnotEmpty : ¬r.variants.isEmpty = true := by simpa using hv
  rw [mapM_emitSources, emitRecord, checkRecord, if_neg hnotEmpty, recordLines_eq hv]
  cases r.exported.forM checkSources <;> rfl

/-- The variants that a variable holds. -/
def Exported.variants : Exported → List VariantSources
  | .single s => [s]
  | .array ss => ss

theorem variants_exportedOf {r : ShaderRecord} (hv : r.variants ≠ []) :
    (exportedOf r).variants = r.exported.map visible := by
  unfold exportedOf
  cases hm : r.isMultiVariant with
  | true => rfl
  | false =>
    rw [exported_eq_singleton hv hm]
    rfl

end Go

/-- What is exported of a record is what is due, unless a variant is overlooked: then only the first one is exported,
though they are not all alike. The declaration of the record is made of the exported variants in their order, and
the text of its module holds them and no others. -/
theorem exported_exact {r : ShaderRecord} (hv : r.variants ≠ []) :
    (r.exported = r.due ↔ ¬r.Overlooks) ∧ (r.Overlooks → r.exported = r.variants.take 1 ∧ ¬r.Alike) ∧
      (∀ g h path w w', Generator.convertShader g h path w = (.ok r, w') →
        r.variants.length = g.config.variants.length) ∧
      (∀ indent, Go.emitRecord r indent =
        (r.exported.mapM (Go.emitSources · (if r.exported.length = 1 then indent else indent ++ "\t"))).map
          (Go.declaration r.variableName indent)) ∧
      ∀ u package, u.isIdentifier package = true → Go.Expressible u r →
        ∃ text o, Go.emitModule package [r] = .ok text ∧ Go.readOutline u text = some o ∧
          o.vars.map (fun v => (v.1, v.2.variants)) = [(r.variableName, r.exported.map Go.visible)] := by
  refine ⟨ShaderRecord.exported_eq_due_iff hv,
    fun hover => ⟨ShaderRecord.exported_of_overlooks hover, ShaderRecord.not_alike_of_overlooks hover⟩,
    fun _ _ _ _ _ => length_of_convertShader, Go.emitRecord_eq hv, ?_⟩
  intro u package hp hr
  have hrecords : ∀ s ∈ [r], Go.Expressible u s := List.forall_mem_singleton.mpr hr
  refine ⟨_, _, Go.emitModule_ok package hrecords, Go.readOutline_module hp hrecords, ?_⟩
  rw [← Go.variants_exportedOf hv]
  rfl

/-! The first two of three variants are alike. -/

def overlookedRecord : ShaderRecord := ⟨"a.frag", [{ glsl100es := "x" }, { glsl100es := "x" }, { glsl100es := "y" }]⟩

theorem exported_overlooked :
    overlookedRecord.variants ≠ [] ∧ overlookedRecord.exported = [{ glsl100es := "x" }] ∧
      overlookedRecord.exported ≠ overlookedRecord.due := by
  have hv : overlookedRecord.variants ≠ [] := by decide
  obtain ⟨hdue, hfirst, -⟩ := exported_exact hv
  have hover : overlookedRecord.Overlooks := ⟨_, _, _, rfl, rfl, _, List.mem_singleton_self _, by decide⟩
  exact ⟨hv, (hfirst hover).1, fun h => hdue.mp h hover⟩

end ShaderBundle
