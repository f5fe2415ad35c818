import ShaderBundle.Go.Module
import ShaderBundle.Proofs.Go.Reader

/-!
# Outlines of modules

What a generated module says: its package and, for each variable, the sources of a shader or an array of
them. An outline is taken from records directly (`outline`), or read from the text of a module by way of its tokens
and its syntax (`readOutline`). The HLSL text stands in a comment only, so an outline has none.

Fields are read by their keys, in any order; a field that is absent has its zero value. An unknown key, a key
given twice or a value of another shape is refused.
-/

namespace ShaderBundle.Go

/-- The value of a variable: the sources of one variant, or an array. -/
inductive Exported
  | single (s : VariantSources)
  | array (ss : List VariantSources)
  deriving Repr, DecidableEq

structure Outline where
  package : String
  vars : List (String × Exported)
  deriving Repr, DecidableEq

/-! ## From records -/

/-- All of the sources but the text of the comment. -/
def visible (s : VariantSources) : VariantSources := { s with hlslText := "" }

def exportedOf (r : ShaderRecord) : Exported :=
  if r.isMultiVariant then .array (r.exported.map visible) else .single (visible (r.variants.headD {}))

def outline (package : String) (records : List ShaderRecord) : Outline :=
  ⟨package, records.map fun r => (r.variableName, exportedOf r)⟩

/-! ## From values -/

namespace Value

def text? : Value → Option String
  | .text s => some s
  | _ => none

def integer? : Value → Option Int
  | .integer n => some n
  | _ => none

def byte? : Value → Option UInt8
  | .integer n => if 0 ≤ n ∧ n < 256 then some (UInt8.ofNat n.toNat) else none
  | _ => none

def dataType? : Value → Option DataType
  | .symbol [package, constant] =>
    if package = "backend" then [DataType.float, .int].find? (·.constant == constant) else none
  | _ => none

/-- The elements of a slice of this type, none of which has a key. -/
def slice? {α : Type} (path : List String) (element? : Value → Option α) : Value → Option (List α)
  | .composite (some (.slice p)) entries =>
    if p = path then entries.mapM fun (key, v) => if key.isNone then element? v else none else none
  | _ => none

def bytes? (v : Value) : Option Bytes :=
  match v with
  | .symbol ["nil"] => some []
  | v => v.slice? ["byte"] byte?

end Value

/-- Elements by key, if each has one of these keys and no two have the same. -/
def keyed? (keys : List String) (entries : List ValueEntry) : Option (List (String × Value)) := do
  let fields ← entries.mapM fun (key, v) => key.map (·, v)
  if (fields.map (·.1)).Nodup ∧ ∀ key ∈ fields.map (·.1), key ∈ keys then some fields else none

/-- A field, or its zero value if it is absent. -/
def fieldOr {α : Type} (fields : List (String × Value)) (key : String) (zero : α)
    (read? : Value → Option α) : Option α :=
  match fields.lookup key with
  | some v => read? v
  | none => some zero

def inputOf? : Value → Option VertexInput
  | .composite none entries => do
    let fields ← keyed? ["Name", "Location", "Semantic", "SemanticIndex", "Type", "Size"] entries
    let name ← fieldOr fields "Name" "" Value.text?
    let location ← fieldOr fields "Location" 0 Value.integer?
    let semantic ← fieldOr fields "Semantic" "" Value.text?
    let semanticIndex ← fieldOr fields "SemanticIndex" 0 Value.integer?
    let type ← (← fields.lookup "Type").dataType?
    let size ← fieldOr fields "Size" 0 Value.integer?
    return ⟨name, location, semantic, semanticIndex, type, size⟩
  | _ => none

def blockOf? : Value → Option UniformBlock
  | .composite none entries => do
    let fields ← keyed? ["Name", "Binding"] entries
    return ⟨← fieldOr fields "Name" "" Value.text?, ← fieldOr fields "Binding" 0 Value.integer?⟩
  | _ => none

def memberOf? : Value → Option UniformMember
  | .composite none entries => do
    let fields ← keyed? ["Name", "Type", "Size", "Offset"] entries
    let name ← fieldOr fields "Name" "" Value.text?
    let type ← (← fields.lookup "Type").dataType?
    let size ← fieldOr fields "Size" 0 Value.integer?
    let offset ← fieldOr fields "Offset" 0 Value.integer?
    return ⟨name, type, size, offset⟩
  | _ => none

def textureOf? (v : Value) : Option TextureBinding := (blockOf? v).map fun b => ⟨b.name, b.binding⟩

def uniformsOf? : Value → Option UniformLayout
  | .composite (some (.named path)) entries =>
    if path = ["backend", "UniformsReflection"] then do
      let fields ← keyed? ["Blocks", "Locations", "Size"] entries
      let blocks ← fieldOr fields "Blocks" [] (Value.slice? ["backend", "UniformBlock"] blockOf?)
      let members ← fieldOr fields "Locations" [] (Value.slice? ["backend", "UniformLocation"] memberOf?)
      let size ← fieldOr fields "Size" 0 Value.integer?
      return ⟨blocks, members, size⟩
    else none
  | _ => none

def sourcesOf? (entries : List ValueEntry) : Option VariantSources := do
  let fields ← keyed?
    ["Inputs", "Uniforms", "Textures", "GLSL100ES", "GLSL300ES", "GLSL130", "GLSL150", "HLSL"] entries
  let inputs ← fieldOr fields "Inputs" [] (Value.slice? ["backend", "InputLocation"] inputOf?)
  let uniforms ← fieldOr fields "Uniforms" {} uniformsOf?
  let textures ← fieldOr fields "Textures" [] (Value.slice? ["backend", "TextureBinding"] textureOf?)
  let glsl100es ← fieldOr fields "GLSL100ES" "" Value.text?
  let glsl300es ← fieldOr fields "GLSL300ES" "" Value.text?
  let glsl130 ← fieldOr fields "GLSL130" "" Value.text?
  let glsl150 ← fieldOr fields "GLSL150" "" Value.text?
  let hlsl ← fieldOr fields "HLSL" [] Value.bytes?
  return { reflection := ⟨inputs, uniforms, textures⟩, glsl100es, glsl300es, glsl130, glsl150, hlsl }

/-- The sources in an array, which have no key and no type of their own. -/
def elementOf? : ValueEntry → Option VariantSources
  | (none, .composite none fields) => sourcesOf? fields
  | _ => none

def exportedOf? : Value → Option Exported
  | .composite (some (.named path)) entries =>
    if path = ["backend", "ShaderSources"] then (sourcesOf? entries).map .single else none
  | .composite (some (.array path)) entries =>
    if path = ["backend", "ShaderSources"] then (entries.mapM elementOf?).map .array else none
  | _ => none

def outlineOf? (f : File) : Option Outline := do
  if f.imported = backendPackage then
    return ⟨f.package, ← f.vars.mapM fun (x, v) => do return (x, ← exportedOf? v)⟩
  else none

/-- What the text of a module says. -/
def readOutline (u : Alphabet) (text : String) : Option Outline := do
  outlineOf? (← readFile (← scan u text))

end ShaderBundle.Go
