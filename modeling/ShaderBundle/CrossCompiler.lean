import ShaderBundle.Action
import ShaderBundle.Shader.Stage
import ShaderBundle.Shader.Target

/-!
# The cross compiler

An outside tool that translates one rendered shader to one target and describes what the shader takes from
outside. Its two outputs are read and removed after each run.
-/

namespace ShaderBundle

/-- Mirrors the class `CrossCompiler`. -/
structure CrossCompiler where
  tool : String
  /-- The directory of the files that a shader includes. -/
  includeDir : Path
  scratch : Path
  /-- Whether uniform blocks are flattened into arrays. -/
  flattenBlocks : Bool

namespace CrossCompiler

def outputBase : String := "shader"

/-- The stage of a shader, which its path has to tell. Mirrors `from_path`. -/
def stageOf (path : String) : Action Stage :=
  match Stage.ofPath? (.ofText path) with
  | some s => return s
  | none => Action.fail (.tool (.unknownStage path) none "")

/-- Mirrors `command`. -/
def command (c : CrossCompiler) (path : String) (stage : Stage) (target : Target) : List String :=
  [c.tool, "--silent", "--optimize", "--include-dirs", c.includeDir.text, "--reflect", "--output",
   (c.scratch.child outputBase).text, "--lang", target.language, "--profile", target.profile,
   stage.flag, path] ++
  -- shared shader code branches on the target language
  (if target.language = "hlsl" then ["--defines=HLSL"] else []) ++
  (if c.flattenBlocks then ["--flatten-ubos"] else [])

/-- Where the tool puts the translation to a stage's shader. -/
def sourcePath (c : CrossCompiler) (stage : Stage) : String :=
  (c.scratch.child (outputBase ++ "_" ++ stage.outputSuffix)).text

/-- Where it puts the description. -/
def reflectionPath (c : CrossCompiler) (stage : Stage) : String :=
  (c.scratch.child (outputBase ++ "_" ++ stage.outputSuffix ++ ".json")).text

/-- Both outputs, or what is wrong with them. -/
def outputs (c : CrossCompiler) (h : Host) (stage : Stage) (t : Tree) :
    Except String (String × Bytes) := do
  let bytes ← (t.readFile h.here (c.sourcePath stage)).mapError FileError.message
  let source ← (Text.Utf8.decode bytes).mapError Text.DecodeFault.message
  let reflection ← (t.readFile h.here (c.reflectionPath stage)).mapError FileError.message
  return (source, reflection)

/-- Reads both outputs and removes them, as the end of `convert` does. -/
def takeOutputs (c : CrossCompiler) (h : Host) (path : String) (stage : Stage) (target : Target) :
    Action (String × Bytes) :=
  let read : Action (String × Bytes) := do
    match c.outputs h stage (← get).tree with
    | .ok found => return found
    | .error detail =>
      Action.fail (.tool (.noOutput path target.label c.tool detail) (some c.tool) "")
  Action.ensure read do
    Action.discard h (c.sourcePath stage)
    Action.discard h (c.reflectionPath stage)

/-- Translates a shader: its source in the target's language, and its description. Mirrors `convert`. -/
def convert (c : CrossCompiler) (h : Host) (path : String) (target : Target) :
    Action (String × Bytes) := do
  let stage ← stageOf path
  match ← Action.run h (c.command path stage target) with
  | .error e => Action.fail (.tool (.cannotRun (some path) c.tool e) (some c.tool) "")
  | .ok result =>
    Action.logWords .debug result.stdout
    if result.status ≠ 0 then
      Action.logWords .warning result.stderr
      Action.fail
        (.tool (.failed path (some target.label) c.tool result.status) (some c.tool) result.stderr)
    else
      Action.logWords .debug result.stderr
      c.takeOutputs h path stage target

end CrossCompiler

end ShaderBundle
