import Mathlib.Algebra.Ring.Int.Defs
import ShaderBundle.Reflection.Reader

/-!
# What a document says

A reading of documents that refuses none: what is absent, or is of another kind than is looked for, is empty or
zero. It takes every part from where it stands, on its own, while a reader goes through the document once and
carries the bytes of the blocks before along.

* `described`: the reflection that a document describes.
* `ofName?_eq_some`: the type names are those of one to four components of either kind.
-/

namespace ShaderBundle

/-! ## Type names -/

namespace DataType

def word : DataType → String
  | .float => "float"
  | .int => "int"

/-- The name of a type: its kind and, from two on, the number of its components. -/
def spelling (type : DataType) (count : Nat) : String := type.word ++ if count = 1 then "" else toString count

theorem names_eq : names = [float, int].flatMap fun type =>
    [1, 2, 3, 4].map fun count => (type.spelling count, type, count) := by
  decide

theorem ofName?_eq_some {name : String} {type : DataType} {count : Nat} :
    ofName? name = some (type, count) ↔ count ∈ [1, 2, 3, 4] ∧ name = type.spelling count := by
  constructor
  · intro h
    obtain ⟨before, after, hnames, -⟩ := List.lookup_eq_some_iff.mp h
    have hmem : (name, type, count) ∈ names := hnames ▸ by simp
    rw [names_eq] at hmem
    obtain ⟨type, -, hmem⟩ := List.mem_flatMap.mp hmem
    obtain ⟨count, hcount, he⟩ := List.mem_map.mp hmem
    cases he
    exact ⟨hcount, rfl⟩
  · rintro ⟨hcount, rfl⟩
    have hall : ∀ count ∈ [1, 2, 3, 4], ofName? (type.spelling count) = some (type, count) := by
      cases type <;> decide
    exact hall count hcount

end DataType

/-! ## Values -/

namespace Json

/-- The fields of an object. -/
def fields : Json → List (String × Json)
  | .object fields => fields
  | _ => []

/-- The items of a list. -/
def items : Json → List Json
  | .list items => items
  | _ => []

/-- A whole number. -/
def whole : Json → Int
  | .integer n => n
  | _ => 0

/-- The characters of a text. -/
def wording : Json → String
  | .text s => s
  | _ => ""

mutual

/-- Whether two documents are the same; one with a floating-point number counts as different. -/
def same : Json → Json → Bool
  | .null, .null => true
  | .bool a, .bool b => a == b
  | .integer m, .integer n => m == n
  | .text s, .text t => s == t
  | .list items, .list others => sameItems items others
  | .object fields, .object others => sameFields fields others
  | _, _ => false

def sameItems : List Json → List Json → Bool
  | [], [] => true
  | v :: rest, w :: others => same v w && sameItems rest others
  | _, _ => false

def sameFields : List (String × Json) → List (String × Json) → Bool
  | [], [] => true
  | (k, v) :: rest, (l, w) :: others => k == l && same v w && sameFields rest others
  | _, _ => false

end

mutual

theorem eq_of_same : ∀ {v w : Json}, same v w = true → v = w
  | .null, .null, _ => rfl
  | .bool _, .bool _, h => congrArg _ (eq_of_beq h)
  | .integer _, .integer _, h => congrArg _ (eq_of_beq h)
  | .text _, .text _, h => congrArg _ (eq_of_beq h)
  | .list _, .list _, h => congrArg _ (eq_of_sameItems h)
  | .object _, .object _, h => congrArg _ (eq_of_sameFields h)

theorem eq_of_sameItems : ∀ {items others : List Json}, sameItems items others = true → items = others
  | [], [], _ => rfl
  | v :: rest, w :: others, h => by
    obtain ⟨hv, hrest⟩ := (Bool.and_eq_true _ _).mp h
    rw [eq_of_same hv, eq_of_sameItems hrest]

theorem eq_of_sameFields : ∀ {fields others : List (String × Json)}, sameFields fields others = true → fields = others
  | [], [], _ => rfl
  | (k, v) :: rest, (l, w) :: others, h => by
    simp only [sameFields, Bool.and_eq_true, beq_iff_eq] at h
    rw [h.1.1, eq_of_same h.1.2, eq_of_sameFields h.2]

end

end Json

namespace Reflection

/-- The value of a key, null if the key is absent. -/
def valueAt (e : Fields) (key : String) : Json := (e.lookup key).getD .null

def integerAt (e : Fields) (key : String) : Int := (valueAt e key).whole

def textAt (e : Fields) (key : String) : String := (valueAt e key).wording

def entriesAt (e : Fields) (key : String) : List Fields := (valueAt e key).items.map Json.fields

/-- The kind and number of components of an entry's type; a name that is none counts as one float. -/
def kindAt (e : Fields) : DataType × Nat := (DataType.ofName? (textAt e "type")).getD (.float, 1)

def stageAt (doc : Json) (stage : String) : Fields := (valueAt doc.fields stage).fields

/-- The entries of the vertex stage if it has any, else those of the fragment stage. -/
def chosenAt (doc : Json) (key : String) : List Fields :=
  if (entriesAt (stageAt doc "vs") key).isEmpty then entriesAt (stageAt doc "fs") key
  else entriesAt (stageAt doc "vs") key

/-! ## Parts -/

def inputAt (e : Fields) : VertexInput where
  name := textAt e "name"
  location := integerAt e "location"
  semantic := textAt e "semantic"
  semanticIndex := integerAt e "semantic_index"
  type := (kindAt e).1
  size := (kindAt e).2

def blockAt (e : Fields) : UniformBlock where
  name := textAt e "name"
  binding := integerAt e "binding"

/-- A member of the block with this number, which starts at `start`. -/
def memberAt (id start : Int) (e : Fields) : UniformMember where
  name := "_" ++ toString id ++ "." ++ textAt e "name"
  type := (kindAt e).1
  size := (kindAt e).2
  offset := start + integerAt e "offset"

def membersAt (start : Int) (block : Fields) : List UniformMember :=
  (entriesAt block "members").map (memberAt (integerAt block "id") start)

def textureAt (e : Fields) : TextureBinding where
  name := textAt e "name"
  binding := integerAt e "binding"

/-- The bytes of the first `k` blocks. -/
def sizeOfFirst (k : Nat) (blocks : List Fields) : Int := ((blocks.take k).map (integerAt · "block_size")).sum

/-- Blocks in one buffer, each behind the bytes of those before it. -/
def layoutOf (blocks : List Fields) : UniformLayout where
  blocks := blocks.map blockAt
  members := blocks.zipIdx.flatMap fun b => membersAt (sizeOfFirst b.2 blocks) b.1
  size := sizeOfFirst blocks.length blocks

def described (doc : Json) : Reflection where
  inputs := byLocation ((entriesAt (stageAt doc "vs") "inputs").map inputAt)
  uniforms := layoutOf (chosenAt doc "uniform_buffers")
  textures := (chosenAt doc "textures").map textureAt

end Reflection

end ShaderBundle
