import ShaderBundle.Files.Path
import ShaderBundle.Shader.Sources
import ShaderBundle.Text.Blank

/-!
# Configuration

What a run converts, with which tools, and where its module goes. Tools may be replaced by environment
variables.
-/

namespace ShaderBundle

/-- Where the module goes unless a configuration says otherwise. -/
def Config.standardOutput : String := "shaders.go"

/-- The suffixes of the files that are shaders. -/
def Config.shaderSuffixes : List String := [".vert", ".frag"]

structure Config where
  /-- Name of the generated package. -/
  package : String
  shaderDir : Path := .ofText "shaders"
  output : Path := .ofText Config.standardOutput
  glslcc : String := "glslcc"
  hlslCompiler : String := "fxc"
  /-- Command that formats the module, whose path is put behind it; empty for none. -/
  formatter : List String := ["gofmt", "-s", "-w"]
  flattenBlocks : Bool := false
  variants : List VariantArgs := VariantArgs.standard

abbrev Environment := List (String × String)

namespace Config

/-- A variable that is set and not empty. -/
def setting? (env : Environment) (key : String) : Option String :=
  match env.lookup key with
  | none | some "" => none
  | some value => some value

/-- The configuration of a package and a directory, with the tools that the environment names. An empty
formatter stands for none. Mirrors `from_env`. -/
def ofEnvironment (env : Environment) (package shaderDir : String) : Config :=
  let plain : Config := { package, shaderDir := .ofText shaderDir }
  { plain with
    glslcc := (setting? env "SHADERCONV_GLSLCC").getD plain.glslcc
    hlslCompiler := (setting? env "SHADERCONV_FXC").getD plain.hlslCompiler
    formatter := ((env.lookup "SHADERCONV_FORMATTER").map Text.words).getD plain.formatter }

end Config

end ShaderBundle
