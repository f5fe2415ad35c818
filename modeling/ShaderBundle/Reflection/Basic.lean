import ShaderBundle.Shader.DataType

/-!
# Reflection

What a shader takes from outside: vertex inputs, uniform blocks laid out in one buffer, textures.
-/

namespace ShaderBundle

/-- An input of a vertex shader. -/
structure VertexInput where
  name : String
  location : Int
  semantic : String
  semanticIndex : Int
  type : DataType
  /-- Number of components. -/
  size : Int
  deriving Repr, DecidableEq

structure UniformBlock where
  name : String
  binding : Int
  deriving Repr, DecidableEq

/-- A member of a uniform block, placed in the buffer that holds all blocks. -/
structure UniformMember where
  name : String
  type : DataType
  size : Int
  /-- Bytes from the start of the buffer. -/
  offset : Int
  deriving Repr, DecidableEq

/-- All uniform blocks of a shader in one buffer. -/
structure UniformLayout where
  blocks : List UniformBlock := []
  members : List UniformMember := []
  size : Int := 0
  deriving Repr, DecidableEq

structure TextureBinding where
  name : String
  binding : Int
  deriving Repr, DecidableEq

structure Reflection where
  inputs : List VertexInput := []
  uniforms : UniformLayout := {}
  textures : List TextureBinding := []
  deriving Repr, DecidableEq

namespace Reflection

/-- The line that reports what a document held. -/
def summary (r : Reflection) : String :=
  s!"Reflected {r.inputs.length} inputs, {r.uniforms.blocks.length} uniform blocks, " ++
    s!"{r.textures.length} textures"

end Reflection

end ShaderBundle
