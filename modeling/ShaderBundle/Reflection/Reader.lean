import ShaderBundle.Json.Reader
import ShaderBundle.Reflection.Basic

/-!
# Reading a reflection document

A document describes the vertex stage under `vs` and the fragment stage under `fs`. Inputs are those of
the vertex stage, in order of their locations. Uniform blocks and textures are those of the vertex
stage if it has any, else those of the fragment stage. Blocks follow one another in one buffer, each
starting where the one before it ends.
-/

namespace ShaderBundle.Reflection

/-- Why a document is refused. -/
inductive Problem
  /-- It is no document at all; the text says why. -/
  | unreadable (detail : String)
  | notObject (what : String)
  | notList (what key : String)
  | notInteger (key : String) (got : Json)
  | notText (key : String) (got : Json)
  | unsupportedType (name : String)
  | note (text : String)

def Problem.detail : Problem → String
  | .unreadable detail => s!"invalid JSON: {detail}"
  | .notObject what => s!"expected an object for {what}"
  | .notList what key => s!"expected a list for {what}.{key}"
  | .notInteger key got => s!"expected an integer for {Text.display key}, got {got.display}"
  | .notText key got => s!"expected a string for {Text.display key}, got {got.display}"
  | .unsupportedType name => s!"unsupported data type: {name}"
  | .note text => text

def Problem.message (p : Problem) : String := s!"Reflection error: {p.detail}"

abbrev Fields := List (String × Json)

/-! ## Access -/

/-- An object's fields; what is absent is an empty object. -/
def objectOf (what : String) : Json → Except Problem Fields
  | .null => .ok []
  | .object fields => .ok fields
  | _ => .error (.notObject what)

def stageOf (doc : Fields) (key : String) : Except Problem Fields :=
  objectOf key ((doc.lookup key).getD .null)

/-- The objects of a list; what is absent is an empty list. -/
def listOf (fields : Fields) (key what : String) : Except Problem (List Fields) :=
  match (fields.lookup key).getD .null with
  | .null => .ok []
  | .list items => items.mapM (objectOf s!"{what}.{key}[]")
  | _ => .error (.notList what key)

/-- A whole number, zero if the key is absent. -/
def integerOf (fields : Fields) (key : String) : Except Problem Int :=
  match fields.lookup key with
  | none => .ok 0
  | some (.integer n) => .ok n
  | some v => .error (.notInteger key v)

/-- A text, empty if the key is absent. -/
def textOf (fields : Fields) (key : String) : Except Problem String :=
  match fields.lookup key with
  | none => .ok ""
  | some (.text s) => .ok s
  | some v => .error (.notText key v)

/-- The kind and number of components that a value names. -/
def typeNamed (name : Json) : Except Problem (DataType × Nat) :=
  let unsupported : Except Problem (DataType × Nat) := .error (.unsupportedType name.plain)
  match name with
  | .text s => ((DataType.ofName? s).map Except.ok).getD unsupported
  | _ => unsupported

def typeOf (fields : Fields) : Except Problem (DataType × Nat) := do
  typeNamed (.text (← textOf fields "type"))

/-! ## Parts -/

def inputOf (fields : Fields) : Except Problem VertexInput := do
  let (type, size) ← typeOf fields
  let name ← textOf fields "name"
  let location ← integerOf fields "location"
  let semantic ← textOf fields "semantic"
  let semanticIndex ← integerOf fields "semantic_index"
  return ⟨name, location, semantic, semanticIndex, type, size⟩

/-- Inputs in order of location; those of one location keep their order. -/
def byLocation (inputs : List VertexInput) : List VertexInput :=
  inputs.mergeSort fun a b => decide (a.location ≤ b.location)

def inputsOf (stage : Fields) : Except Problem (List VertexInput) := do
  let entries ← listOf stage "inputs" "vs"
  return byLocation (← entries.mapM inputOf)

/-- The name of a block's member in the buffer. -/
def memberName (id : Int) (name : String) : String := s!"_{id}.{name}"

/-- A member of the block with this number, which starts at `start`. -/
def memberOf (id start : Int) (fields : Fields) : Except Problem UniformMember := do
  let (type, size) ← typeOf fields
  let name ← textOf fields "name"
  let offset ← integerOf fields "offset"
  return ⟨memberName id name, type, size, start + offset⟩

/-- Lays out blocks from `start` on. -/
def layoutFrom (start : Int) : List Fields → Except Problem UniformLayout
  | [] => .ok { size := start }
  | block :: rest => do
    let id ← integerOf block "id"
    let name ← textOf block "name"
    let binding ← integerOf block "binding"
    let members ← (← listOf block "members" "uniform_buffers[]").mapM (memberOf id start)
    let size ← integerOf block "block_size"
    let after ← layoutFrom (start + size) rest
    return ⟨⟨name, binding⟩ :: after.blocks, members ++ after.members, after.size⟩

def textureOf (fields : Fields) : Except Problem TextureBinding := do
  let name ← textOf fields "name"
  let binding ← integerOf fields "binding"
  return ⟨name, binding⟩

/-- The list of the vertex stage unless it is empty, else that of the fragment stage. -/
def preferred (vs fs : Fields) (key : String) : Except Problem (List Fields) := do
  match ← listOf vs key "vs" with
  | [] => listOf fs key "fs"
  | entries => return entries

/-! ## Documents -/

def ofDocument (doc : Json) : Except Problem Reflection := do
  let doc ← objectOf "reflection document" doc
  let vs ← stageOf doc "vs"
  let fs ← stageOf doc "fs"
  let inputs ← inputsOf vs
  let uniforms ← layoutFrom 0 (← preferred vs fs "uniform_buffers")
  let textures ← (← preferred vs fs "textures").mapM textureOf
  return ⟨inputs, uniforms, textures⟩

/-- What a document describes. Mirrors `parse_reflection`. -/
def read (source : Source) : Except Problem Reflection :=
  match source.read with
  | .error detail => .error (.unreadable detail)
  | .ok doc => ofDocument doc

end ShaderBundle.Reflection
