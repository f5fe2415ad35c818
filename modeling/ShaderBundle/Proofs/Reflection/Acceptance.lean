import Mathlib.Tactic.MkIffOfInductiveProp
import ShaderBundle.Proofs.Reflection.Demand

/-!
# Which documents are accepted

A document is accepted if all that a reader meets on its way has the right kind. The way depends on the document: the
list of the fragment stage counts only where that of the vertex stage is empty, and what stands under another key is
never looked at. Null stands for an object or a list that is not there, but for no number and no text.

* `Acceptable`: the documents that are accepted, part by part.
* `read_exact`: when a source is accepted, and what it is refused for.
-/

namespace ShaderBundle

namespace Json

def ObjectOrNull (v : Json) : Prop := v = .null ∨ ∃ fields, v = .object fields

/-- Null, or a list of objects and nulls. -/
def ObjectsOrNull (v : Json) : Prop := v = .null ∨ ∃ items, v = .list items ∧ ∀ item ∈ items, item.ObjectOrNull

end Json

namespace Reflection

/-! ## Acceptable parts -/

def IntegerOrMissing (e : Fields) (key : String) : Prop := ∀ v, e.lookup key = some v → ∃ n, v = .integer n

def TextOrMissing (e : Fields) (key : String) : Prop := ∀ v, e.lookup key = some v → ∃ s, v = .text s

/-- The entry names a type, of one to four components of either kind. -/
def Typed (e : Fields) : Prop :=
  ∃ type : DataType, ∃ count ∈ [1, 2, 3, 4], e.lookup "type" = some (.text (type.spelling count))

@[mk_iff]
structure AcceptableInput (e : Fields) : Prop where
  typed : Typed e
  name : TextOrMissing e "name"
  location : IntegerOrMissing e "location"
  semantic : TextOrMissing e "semantic"
  semanticIndex : IntegerOrMissing e "semantic_index"

@[mk_iff]
structure AcceptableMember (e : Fields) : Prop where
  typed : Typed e
  name : TextOrMissing e "name"
  offset : IntegerOrMissing e "offset"

@[mk_iff]
structure AcceptableBlock (b : Fields) : Prop where
  id : IntegerOrMissing b "id"
  name : TextOrMissing b "name"
  binding : IntegerOrMissing b "binding"
  members : (valueAt b "members").ObjectsOrNull
  member : ∀ e ∈ entriesAt b "members", AcceptableMember e
  size : IntegerOrMissing b "block_size"

@[mk_iff]
structure AcceptableTexture (e : Fields) : Prop where
  name : TextOrMissing e "name"
  binding : IntegerOrMissing e "binding"

/-- The list of the vertex stage, and that of the fragment stage where the first is missing, null or empty. -/
@[mk_iff]
structure AcceptableChoice (doc : Json) (key : String) : Prop where
  vertex : (valueAt (stageAt doc "vs") key).ObjectsOrNull
  fragment : valueAt (stageAt doc "vs") key = .null ∨ valueAt (stageAt doc "vs") key = .list [] →
    (valueAt (stageAt doc "fs") key).ObjectsOrNull

@[mk_iff]
structure Acceptable (doc : Json) : Prop where
  document : doc.ObjectOrNull
  vertex : (valueAt doc.fields "vs").ObjectOrNull
  fragment : (valueAt doc.fields "fs").ObjectOrNull
  inputs : (valueAt (stageAt doc "vs") "inputs").ObjectsOrNull
  input : ∀ e ∈ entriesAt (stageAt doc "vs") "inputs", AcceptableInput e
  uniforms : AcceptableChoice doc "uniform_buffers"
  block : ∀ b ∈ chosenAt doc "uniform_buffers", AcceptableBlock b
  textures : AcceptableChoice doc "textures"
  texture : ∀ e ∈ chosenAt doc "textures", AcceptableTexture e

/-! ## Demands that are met -/

theorem met_object {what : String} {v : Json} : (Demand.object what v).met = true ↔ v.ObjectOrNull := by
  cases v <;> simp [Demand.met, Json.ObjectOrNull]

theorem met_integerAt {e : Fields} {key : String} :
    (Demand.integerAt e key).met = true ↔ IntegerOrMissing e key := by
  unfold Demand.integerAt IntegerOrMissing
  rcases e.lookup key with _ | v
  · simp [Demand.met]
  · cases v <;> simp [Demand.met]

theorem met_textAt {e : Fields} {key : String} : (Demand.textAt e key).met = true ↔ TextOrMissing e key := by
  unfold Demand.textAt TextOrMissing
  rcases e.lookup key with _ | v
  · simp [Demand.met]
  · cases v <;> simp [Demand.met]

theorem listDemands_met {what : String} {e : Fields} {key : String} :
    (∀ d ∈ listDemands what e key, d.met = true) ↔ (valueAt e key).ObjectsOrNull := by
  rw [listDemands, List.forall_mem_cons, List.forall_mem_map]
  simp only [met_object]
  cases valueAt e key <;> simp [Demand.met, Json.ObjectsOrNull, Json.items]

theorem textAt_of_lookup {e : Fields} {key s : String} (h : e.lookup key = some (.text s)) : textAt e key = s := by
  rw [textAt, valueAt, h]
  rfl

/-- A text that is not empty is there. -/
theorem lookup_of_textAt {e : Fields} {key : String} (h : TextOrMissing e key) (hne : textAt e key ≠ "") :
    e.lookup key = some (.text (textAt e key)) := by
  cases hfound : e.lookup key with
  | none =>
    refine absurd ?_ hne
    rw [textAt, valueAt, hfound]
    rfl
  | some v =>
    obtain ⟨s, rfl⟩ := h v hfound
    rw [textAt_of_lookup hfound]

theorem met_type {e : Fields} (h : TextOrMissing e "type") : (Demand.type (textAt e "type")).met = true ↔ Typed e := by
  rw [Demand.met, Option.isSome_iff_exists]
  constructor
  · rintro ⟨⟨type, count⟩, hfound⟩
    have hne : textAt e "type" ≠ "" := by
      intro hempty
      have hnone : DataType.ofName? "" = none := by decide
      rw [hempty, hnone] at hfound
      cases hfound
    obtain ⟨hcount, hspelling⟩ := DataType.ofName?_eq_some.mp hfound
    exact ⟨type, count, hcount, hspelling ▸ lookup_of_textAt h hne⟩
  · rintro ⟨type, count, hcount, hfound⟩
    exact ⟨(type, count), DataType.ofName?_eq_some.mpr ⟨hcount, textAt_of_lookup hfound⟩⟩

theorem Typed.text {e : Fields} (h : Typed e) : TextOrMissing e "type" := by
  obtain ⟨type, count, -, hfound⟩ := h
  intro v hv
  rw [hfound] at hv
  cases hv
  exact ⟨_, rfl⟩

/-- The type of an entry is spelled as its kind and its number of components are. -/
theorem Typed.spelled {e : Fields} (h : Typed e) : ∃ count ∈ [1, 2, 3, 4],
    (kindAt e).2 = count ∧ e.lookup "type" = some (.text ((kindAt e).1.spelling count)) := by
  obtain ⟨type, count, hcount, hfound⟩ := h
  have hkind : kindAt e = (type, count) := by
    rw [kindAt, textAt_of_lookup hfound, DataType.ofName?_eq_some.mpr ⟨hcount, rfl⟩, Option.getD_some]
  exact ⟨count, hcount, by rw [hkind], by rw [hkind, hfound]⟩

theorem typeDemands_met {e : Fields} : (∀ d ∈ typeDemands e, d.met = true) ↔ Typed e := by
  simp only [typeDemands, List.forall_mem_cons, List.not_mem_nil, false_implies, implies_true, and_true, met_textAt]
  constructor
  · exact fun ⟨htext, hname⟩ => (met_type htext).mp hname
  · exact fun h => ⟨h.text, (met_type h.text).mpr h⟩

theorem inputDemands_met {e : Fields} : (∀ d ∈ inputDemands e, d.met = true) ↔ AcceptableInput e := by
  simp only [inputDemands, List.forall_mem_append, List.forall_mem_cons, List.not_mem_nil, false_implies, implies_true,
    and_true, typeDemands_met, met_textAt, met_integerAt, acceptableInput_iff]

theorem memberDemands_met {e : Fields} : (∀ d ∈ memberDemands e, d.met = true) ↔ AcceptableMember e := by
  simp only [memberDemands, List.forall_mem_append, List.forall_mem_cons, List.not_mem_nil, false_implies, implies_true,
    and_true, typeDemands_met, met_textAt, met_integerAt, acceptableMember_iff]

theorem blockDemands_met {b : Fields} : (∀ d ∈ blockDemands b, d.met = true) ↔ AcceptableBlock b := by
  simp only [blockDemands, List.forall_mem_append, List.forall_mem_cons, List.forall_mem_flatMap, List.not_mem_nil,
    false_implies, implies_true, and_true, listDemands_met, memberDemands_met, met_textAt, met_integerAt,
    acceptableBlock_iff, and_assoc]

theorem textureDemands_met {e : Fields} : (∀ d ∈ textureDemands e, d.met = true) ↔ AcceptableTexture e := by
  simp only [textureDemands, List.forall_mem_cons, List.not_mem_nil, false_implies, implies_true, and_true, met_textAt,
    met_integerAt, acceptableTexture_iff]

/-- A list without entries is missing, null or empty, unless it is none at all. -/
theorem entriesAt_eq_nil {e : Fields} {key : String} (h : (valueAt e key).ObjectsOrNull) :
    entriesAt e key = [] ↔ valueAt e key = .null ∨ valueAt e key = .list [] := by
  unfold entriesAt
  rcases h with h | ⟨items, h, -⟩
  · simp [h, Json.items]
  · simp [h, Json.items]

theorem choiceDemands_met {doc : Json} {key : String} :
    (∀ d ∈ choiceDemands doc key, d.met = true) ↔ AcceptableChoice doc key := by
  rw [choiceDemands, List.forall_mem_append, listDemands_met, acceptableChoice_iff]
  refine and_congr_right fun hvs => ?_
  rw [← entriesAt_eq_nil hvs]
  cases h : entriesAt (stageAt doc "vs") key with
  | nil => simp [listDemands_met]
  | cons e entries => simp

theorem demands_met {doc : Json} : (∀ d ∈ demands doc, d.met = true) ↔ Acceptable doc := by
  simp only [demands, inputListDemands, List.forall_mem_append, List.forall_mem_cons, List.forall_mem_flatMap,
    List.not_mem_nil, false_implies, implies_true, and_true, met_object, listDemands_met, inputDemands_met,
    choiceDemands_met, blockDemands_met, textureDemands_met, acceptable_iff, and_assoc]

/-! ## Sources -/

theorem exists_of_toBool {ε α : Type} {r : Except ε α} (h : r.toBool = true) : ∃ x, r = .ok x := by
  cases r with
  | error e => cases h
  | ok x => exact ⟨x, rfl⟩

theorem read_of_same {source : Source} {doc : Json} (h : source.read.toOption.any doc.same = true) :
    source.read = .ok doc := by
  cases hs : source.read with
  | error detail =>
    rw [hs] at h
    cases h
  | ok found =>
    rw [hs] at h
    rw [Json.eq_of_same h]

theorem read_of_ok {source : Source} {doc : Json} (hs : source.read = .ok doc) :
    read source = answer (demands doc) (described doc) := by
  rw [read, hs, ← ofDocument_eq]

/-- What is accepted is taken as it is described. -/
theorem read_eq_ok {source : Source} {r : Reflection} (h : read source = .ok r) :
    ∃ doc, source.read = .ok doc ∧ Acceptable doc ∧ described doc = r := by
  cases hs : source.read with
  | error detail =>
    rw [read, hs] at h
    cases h
  | ok doc =>
    rw [read_of_ok hs, answer_eq_ok, demands_met] at h
    exact ⟨doc, rfl, h⟩

/-- A source that is no document is refused for that. A document is accepted if and only if it is acceptable; else
it is refused for the first thing on the reader's way that is wanting, which is a type exactly if that names none
with a portable equivalent. -/
theorem read_exact (source : Source) :
    (∀ detail, source.read = .error detail → read source = .error (.unreadable detail)) ∧
    ∀ doc, source.read = .ok doc →
      ((∃ r, read source = .ok r) ↔ Acceptable doc) ∧
      (∀ p, read source = .error p ↔ ∃ d, FirstUnmet (demands doc) d ∧ d.problem = p) ∧
      ∀ name, read source = .error (.unsupportedType name) ↔ FirstUnmet (demands doc) (.type name) := by
  refine ⟨fun detail hs => by rw [read, hs], fun doc hs => ?_⟩
  simp only [read_of_ok hs]
  refine ⟨?_, fun p => answer_eq_error, fun name => answer_eq_error.trans ?_⟩
  · simp only [answer_eq_ok, demands_met, exists_and_left, exists_eq', and_true]
  · constructor
    · rintro ⟨d, hd, hp⟩
      cases d with
      | type name' =>
        cases hp
        exact hd
      | _ => cases hp
    · exact fun hd => ⟨_, hd, rfl⟩

/-! A matrix among the inputs: it counts before the name of its entry and the textures of the fragment stage, which are
wrong as well. -/

def matrixSource : Source :=
  .text "\x7b\"vs\":\x7b\"inputs\":[\x7b\"type\":\"mat4\",\"name\":3\x7d]\x7d,\"fs\":\x7b\"textures\":0\x7d\x7d"

/-- The name of the type that a source is refused for. -/
def refusedType? (source : Source) : Option String :=
  match read source with
  | .error (.unsupportedType name) => some name
  | _ => none

theorem refusedType?_eq_some {source : Source} {name : String} (h : refusedType? source = some name) :
    read source = .error (.unsupportedType name) := by
  unfold refusedType? at h
  split at h
  · next hr =>
    cases h
    exact hr
  · cases h

theorem read_matrix : ∃ doc, matrixSource.read = .ok doc ∧ ¬Acceptable doc ∧
    FirstUnmet (demands doc) (.type "mat4") ∧ read matrixSource = .error (.unsupportedType "mat4") := by
  have hread : read matrixSource = .error (.unsupportedType "mat4") := refusedType?_eq_some (by decide +kernel)
  obtain ⟨hunreadable, hexact⟩ := read_exact matrixSource
  cases hs : matrixSource.read with
  | error detail =>
    rw [hunreadable detail hs] at hread
    cases hread
  | ok doc =>
    obtain ⟨haccept, -, htype⟩ := hexact doc hs
    refine ⟨doc, rfl, fun hdoc => ?_, (htype "mat4").mp hread, hread⟩
    obtain ⟨r, hr⟩ := haccept.mpr hdoc
    rw [hread] at hr
    cases hr

end Reflection

end ShaderBundle
