/-!
# Translation targets

The languages and profiles that every shader is translated to, in the order of the translations.
-/

namespace ShaderBundle

inductive Target
  | gles100 | gles300 | glsl130 | hlsl40
  deriving Repr, DecidableEq

namespace Target

/-- In the order in which a variant is translated. The reflection is read from the first alone. -/
def all : List Target := [.gles100, .gles300, .glsl130, .hlsl40]

def language : Target → String
  | .gles100 | .gles300 => "gles"
  | .glsl130 => "glsl"
  | .hlsl40 => "hlsl"

def profile : Target → String
  | .gles100 => "100"
  | .gles300 => "300"
  | .glsl130 => "130"
  | .hlsl40 => "40"

/-- The name of the place of its text among the sources of a variant. -/
def field : Target → String
  | .gles100 => "glsl100es"
  | .gles300 => "glsl300es"
  | .glsl130 => "glsl130"
  | .hlsl40 => "hlsl_src"

def label (t : Target) : String := s!"{t.language} {t.profile}"

end Target

end ShaderBundle
