import ShaderBundle.Go.Literal
import ShaderBundle.Shader.Sources

/-!
# The generated module

One variable per shader. It holds the sources of a shader with one variant, or an array of them for a
shader with several. Fields always come in the same order: the reflection, then the sources from the
oldest language on. The module depends on nothing but the records.
-/

namespace ShaderBundle.Go

def backendPackage : String := "gioui.org/gpu/backend"

def header : String := "// Code generated by shaderconv. DO NOT EDIT."

/-- Why records cannot be written. -/
inductive Refusal
  /-- A shader without variants has nothing to export. -/
  | noVariant
  /-- A whole number has more than 4300 digits. -/
  | longInteger
  deriving Repr, DecidableEq

/-! ## Elements -/

def inputElement (i : VertexInput) : String :=
  s!"\x7bName: {stringLiteral i.name}, Location: {i.location}, " ++
    s!"Semantic: {stringLiteral i.semantic}, SemanticIndex: {i.semanticIndex}, " ++
    s!"Type: backend.{i.type.constant}, Size: {i.size}\x7d"

def blockElement (b : UniformBlock) : String :=
  s!"\x7bName: {stringLiteral b.name}, Binding: {b.binding}\x7d"

def memberElement (m : UniformMember) : String :=
  s!"\x7bName: {stringLiteral m.name}, Type: backend.{m.type.constant}, Size: {m.size}, " ++
    s!"Offset: {m.offset}\x7d"

def textureElement (t : TextureBinding) : String :=
  s!"\x7bName: {stringLiteral t.name}, Binding: {t.binding}\x7d"

/-! ## Fields -/

/-- A field that holds a slice; an empty one is left out. -/
def sliceField (field typeName : String) (elements : List String) (indent : String) : List String :=
  if elements.isEmpty then []
  else [s!"{indent}{field}: {sliceLiteral typeName elements indent},"]

def blockSlice (u : UniformLayout) (indent : String) : String :=
  sliceLiteral "UniformBlock" (u.blocks.map blockElement) indent

def memberSlice (u : UniformLayout) (indent : String) : String :=
  sliceLiteral "UniformLocation" (u.members.map memberElement) indent

/-- The buffer's layout; left out when there is no block. -/
def uniformFields (u : UniformLayout) (indent : String) : List String :=
  if u.blocks.isEmpty then []
  else
    let inner := indent ++ "\t"
    [s!"{indent}Uniforms: backend.UniformsReflection\x7b",
     s!"{inner}Blocks: {blockSlice u inner},",
     s!"{inner}Locations: {memberSlice u inner},",
     s!"{inner}Size: {u.size},",
     s!"{indent}\x7d,"]

def stringField (field value indent : String) : String :=
  s!"{indent}{field}: {stringLiteral value},"

/-- The fields of a variant's sources. -/
def sourceFields (s : VariantSources) (indent : String) : List String :=
  sliceField "Inputs" "InputLocation" (s.reflection.inputs.map inputElement) indent ++
  uniformFields s.reflection.uniforms indent ++
  sliceField "Textures" "TextureBinding" (s.reflection.textures.map textureElement) indent ++
  [stringField "GLSL100ES" s.glsl100es indent,
   stringField "GLSL300ES" s.glsl300es indent,
   stringField "GLSL130" s.glsl130 indent,
   stringField "GLSL150" s.glsl150 indent,
   -- the text that the bytecode below was made from, for the reader
   comment indent s.hlslText,
   s!"{indent}HLSL: {bytesLiteral s.hlsl indent},"]

/-- A composite literal behind `opening`, with `closing` on its last line. -/
def sourceLines (opening closing : String) (s : VariantSources) (indent : String) : List String :=
  (indent ++ opening ++ "\x7b") :: (sourceFields s (indent ++ "\t") ++ [indent ++ "\x7d" ++ closing])

/-! ## Records -/

def recordLines (r : ShaderRecord) (indent : String) : List String :=
  if r.isMultiVariant then
    (s!"{indent}{r.variableName} = [...]backend.ShaderSources\x7b" ::
      r.exported.flatMap fun s => sourceLines "" "," s (indent ++ "\t")) ++ [s!"{indent}\x7d"]
  else r.exported.flatMap fun s => sourceLines s!"{r.variableName} = backend.ShaderSources" "" s indent

/-- Each line and its end. -/
def textOfLines (lines : List String) : String := String.join (lines.map (· ++ "\n"))

def moduleLines (package : String) (records : List ShaderRecord) : List String :=
  [header, "", s!"package {package}", "", s!"import {stringLiteral backendPackage}", "", "var ("] ++
    records.flatMap (recordLines · "\t") ++ [")"]

/-! ## Refusals -/

/-- The least number that has too many digits. -/
def integerLimit : Nat := Nat.pow 10 4300

def isWritable (n : Int) : Bool := n.natAbs < integerLimit

/-- The whole numbers that the sources' literal holds. -/
def integersOf (r : Reflection) : List Int :=
  r.inputs.flatMap (fun i => [i.location, i.semanticIndex, i.size]) ++
  (if r.uniforms.blocks.isEmpty then []
   else
    r.uniforms.blocks.map (·.binding) ++ r.uniforms.members.flatMap (fun m => [m.size, m.offset]) ++
      [r.uniforms.size]) ++
  r.textures.map (·.binding)

def checkSources (s : VariantSources) : Except Refusal Unit :=
  if (integersOf s.reflection).all isWritable then .ok () else .error .longInteger

def checkRecord (r : ShaderRecord) : Except Refusal Unit :=
  if r.variants.isEmpty then .error .noVariant else r.exported.forM checkSources

/-! ## Emission -/

/-- Mirrors `emit_sources`. -/
def emitSources (s : VariantSources) (indent : String) : Except Refusal (List String) := do
  checkSources s
  return sourceLines "" "" s indent

/-- Mirrors `emit_record`. -/
def emitRecord (r : ShaderRecord) (indent : String) : Except Refusal (List String) := do
  checkRecord r
  return recordLines r indent

/-- The text of the whole module. Mirrors `emit_module`. -/
def emitModule (package : String) (records : List ShaderRecord) : Except Refusal String := do
  records.forM checkRecord
  return textOfLines (moduleLines package records)

end ShaderBundle.Go
