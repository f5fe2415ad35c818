import ShaderBundle.Reflection.Basic
import ShaderBundle.Shader.Target
import ShaderBundle.Text.Encoding
import ShaderBundle.Text.Search

/-!
# Shaders and their variants

A shader file gives one record: the sources of each of its variants. A shader whose text does not
depend on the variant has equal variants, and only the first of them is exported.
-/

namespace ShaderBundle

/-- What a template is told to make one variant. -/
structure VariantArgs where
  /-- Expression that gives the colour of a fragment. -/
  fetchColorExpr : String
  /-- Declarations that the expression needs. -/
  header : String
  deriving Repr, DecidableEq

namespace VariantArgs

def solid : VariantArgs :=
  ⟨"_color", "layout(binding=0) uniform Color \x7b vec4 _color; \x7d;"⟩

def textured : VariantArgs :=
  ⟨"texture(tex, vUV)", "layout(binding=0) uniform sampler2D tex;"⟩

/-- The variants, in the order of their export. -/
def standard : List VariantArgs := [solid, textured]

/-- The name of the variant at a place. -/
def label : Nat → String
  | 0 => "solid"
  | 1 => "textured"
  | n => toString n

end VariantArgs

/-- Every form of one variant of a shader. -/
structure VariantSources where
  reflection : Reflection := {}
  glsl100es : String := ""
  glsl300es : String := ""
  glsl130 : String := ""
  glsl150 : String := ""
  /-- HLSL as text. -/
  hlslText : String := ""
  /-- HLSL compiled. -/
  hlsl : Bytes := []
  deriving Repr, DecidableEq

structure ShaderRecord where
  /-- Name of the shader's file. -/
  name : String
  variants : List VariantSources
  deriving Repr, DecidableEq

namespace ShaderRecord

/-- Whether the first two variants differ. Mirrors `is_multi_variant`. -/
def isMultiVariant (r : ShaderRecord) : Bool :=
  match r.variants with
  | a :: b :: _ => a.glsl100es != b.glsl100es
  | _ => false

/-- Mirrors `exported_variants`. -/
def exported (r : ShaderRecord) : List VariantSources :=
  if r.isMultiVariant then r.variants else r.variants.take 1

/-- The variable that holds the shader in the generated module. Mirrors `var_name`. -/
def variableName (r : ShaderRecord) : String :=
  "shader_" ++ String.ofList (r.name.toList.map fun c => if c = '.' then '_' else c)

end ShaderRecord

/-! ## GLSL 1.50 -/

namespace Glsl

def version130 : List Char := "#version 130".toList

def version150 : List Char := "#version 150".toList

/-- GLSL 1.50 from GLSL 1.30: the first version directive changes, all else is compatible. Mirrors
`glsl150_from_glsl130`. -/
def to150 (source : String) : String :=
  String.ofList (Text.replaceFirst version130 version150 source.toList)

end Glsl

end ShaderBundle
