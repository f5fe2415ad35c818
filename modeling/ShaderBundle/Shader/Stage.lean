import ShaderBundle.Files.Path

/-!
# Shader stages

The stage of a shader follows from its file's suffix.
-/

namespace ShaderBundle

inductive Stage
  | vertex | fragment
  deriving Repr, DecidableEq

namespace Stage

def all : List Stage := [.vertex, .fragment]

/-- Suffix of the shader files of this stage. -/
def extension : Stage → String
  | .vertex => ".vert"
  | .fragment => ".frag"

/-- The cross compiler's option in front of a shader of this stage. -/
def flag : Stage → String
  | .vertex => "--vert"
  | .fragment => "--frag"

/-- What the cross compiler puts behind the name of its output. -/
def outputSuffix : Stage → String
  | .vertex => "vs"
  | .fragment => "fs"

/-- How the bytecode profiles of this stage start. -/
def profilePrefix : Stage → String
  | .vertex => "vs"
  | .fragment => "ps"

/-- The stage of a file with this suffix. -/
def ofSuffix? (suffix : String) : Option Stage := all.find? (·.extension == suffix)

def ofPath? (p : Path) : Option Stage := ofSuffix? p.suffix

end Stage

end ShaderBundle
