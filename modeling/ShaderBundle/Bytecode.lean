import ShaderBundle.Action
import ShaderBundle.Shader.Stage

/-!
# HLSL bytecode

HLSL is compiled for the most compatible feature level that accepts it: first for the restricted level
9.1, then for plain shader model 4.0. The compiler is an outside tool; its two scratch files are gone
when it is done.
-/

namespace ShaderBundle

/-- Compiles a source, from an entry point, for a profile. -/
abbrev BytecodeCompiler := (source entry profile : String) → Action Bytes

namespace Bytecode

/-- Shader model 4.0 restricted to the hardware of level 9.1: the first of the `FEATURE_LEVELS`. -/
def compatibleProfile (s : Stage) : String := s.profilePrefix ++ "_4_0_level_9_1"

/-- Plain shader model 4.0, the second of them. -/
def fallbackProfile (s : Stage) : String := s.profilePrefix ++ "_4_0"

def defaultEntry : String := "main"

/-- Goes on with `handler` when the compiler rejects its source; any other failure stands. -/
def onRejection {α : Type} (body : Action α) (handler : Failure → String → Action α) : Action α :=
  fun w =>
    match body w with
    | (.error (.reported ⟨.bytecode profile stderr, context⟩), w) =>
      handler (.reported ⟨.bytecode profile stderr, context⟩) stderr w
    | other => other

/-- Compiles for level 9.1, and for plain 4.0 if that is rejected. Mirrors `compile_hlsl`. -/
def compile (compiler : BytecodeCompiler) (source : String) (stage : Stage) (entry : String) :
    Action Bytes :=
  onRejection (compiler source entry (compatibleProfile stage)) fun _ words => do
    Action.log .info s!"{compatibleProfile stage} failed, retrying with {fallbackProfile stage}"
    Action.logWords .debug words
    onRejection (compiler source entry (fallbackProfile stage)) fun failure words => do
      Action.logWords .warning words
      throw failure

/-! ## The tool -/

/-- Mirrors the class `FXCCompiler`. -/
structure Fxc where
  tool : String
  scratch : Path

namespace Fxc

def sourcePath (c : Fxc) : String := (c.scratch.child "shader.hlsl").text

def outputPath (c : Fxc) : String := (c.scratch.child "shader.cso").text

def command (c : Fxc) (entry profile : String) : List String :=
  [c.tool, "/nologo", "/E", entry, "/T", profile, "/Fo", c.outputPath, c.sourcePath]

/-- Runs the tool on the source that has been written, and reads what it made. -/
def runTool (h : Host) (c : Fxc) (entry profile : String) : Action Bytes := do
  match ← Action.run h (c.command entry profile) with
  | .error e => Action.fail (.tool (.cannotRun none c.tool e) (some c.tool) "")
  | .ok result =>
    if result.status ≠ 0 then Action.fail (.bytecode profile result.stderr)
    else
      match ← Action.ask (·.readFile h.here c.outputPath) with
      | .ok bytes => return bytes
      | .error e => Action.fail (.bytecode profile s!"no output: {e.message}")

/-- Compiles by way of two scratch files, and removes them however it ends, as a call of an `FXCCompiler` does. -/
def compile (h : Host) (c : Fxc) : BytecodeCompiler := fun source entry profile => do
  match ← Action.save h c.sourcePath source with
  | .error e =>
    Action.fail (.file (.cannotWrite c.sourcePath e.message) (some c.sourcePath))
  | .ok () =>
    Action.ensure (runTool h c entry profile) do
      Action.discard h c.sourcePath
      Action.discard h c.outputPath

end Fxc

end Bytecode

end ShaderBundle
