import ShaderBundle.Bytecode
import ShaderBundle.Config
import ShaderBundle.CrossCompiler
import ShaderBundle.Json.Depth
import ShaderBundle.Shader.Rendered

/-!
# Generating the module

Every shader of a directory is rendered for every variant, translated to every target, reflected and compiled;
the records make up one module, which is formatted and moved to its place. The first failure ends the run. Nothing
is in place then, unless it is the move itself that fails, where it has to copy.
-/

namespace ShaderBundle

/-- A configuration with the tools that carry it out. -/
structure Generator where
  config : Config
  crossCompiler : CrossCompiler
  bytecodeCompiler : BytecodeCompiler

namespace Generator

/-! ## Discovery -/

def isShader (t : Tree) (here : Location) (p : Path) : Bool :=
  Config.shaderSuffixes.contains p.suffix && t.isFile here p.text

/-- The paths of the shaders among the names in a directory, in the order of their names. Mirrors
`discover_shaders`, with `discover`. -/
def shadersAmong (t : Tree) (here : Location) (directory : Path) (names : List String) : List Path :=
  let paths := (names.map directory.child).filter (isShader t here)
  paths.mergeSort fun p q => decide (p.name ≤ q.name)

def discover (g : Generator) (h : Host) : Action (List Path) := do
  let directory := g.config.shaderDir
  let t := (← get).tree
  match t.list h.here directory.text with
  | .ok names => return shadersAmong t h.here directory names
  | .error e => Action.fail (.file (.cannotList directory.text e) (some directory.text))

/-! ## Variants -/

/-- The sources with a translation in its place, which is the `source_field` of its target. -/
def withSource (s : VariantSources) (target : Target) (text : String) : VariantSources :=
  match target with
  | .gles100 => { s with glsl100es := text }
  | .gles300 => { s with glsl300es := text }
  | .glsl130 => { s with glsl130 := text }
  | .hlsl40 => { s with hlslText := text }

/-- What a document describes. One that is nested too deep ends the run with a crash. -/
def reflect (document : Bytes) : Action Reflection := do
  if Json.overflows document then Action.crash .tooDeep
  else
    match Reflection.read (.bytes document) with
    | .ok r =>
      Action.log .debug r.summary
      return r
    | .error p => Action.fail (.reflection p)

/-- Translates a rendered shader to one target. The reflection is that of the first target, as it does not
depend on the language. Mirrors the loop over the targets in `convert_variant`. -/
def translate (g : Generator) (h : Host) (file : String) (s : VariantSources) (target : Target) :
    Action VariantSources := do
  let (text, document) ← g.crossCompiler.convert h file target
  let s := withSource s target text
  if target = .gles100 then return { s with reflection := ← reflect document } else return s

/-- Every form of one variant of a shader. Mirrors `convert_variant`. -/
def convertVariant (g : Generator) (h : Host) (path : Path) (args : VariantArgs) :
    Action VariantSources := do
  let stage ← CrossCompiler.stageOf path.text
  let s ← Shader.withRendered h path.text args g.crossCompiler.scratch fun file =>
    Target.all.foldlM (g.translate h file.text) {}
  let hlsl ← Bytecode.compile g.bytecodeCompiler s.hlslText stage Bytecode.defaultEntry
  return { s with hlsl, glsl150 := Glsl.to150 s.glsl130 }

/-! ## Shaders -/

/-- What an error says about where it arose: the `context` that `convert_shader` gives it. -/
def variantContext (path : Path) (i : Nat) : String :=
  s!"{path.name} ({VariantArgs.label i} variant)"

/-- Every variant of a shader. Mirrors `convert_shader`. -/
def convertShader (g : Generator) (h : Host) (path : Path) : Action ShaderRecord := do
  let variants ← g.config.variants.zipIdx.mapM fun (args, i) =>
    Action.inContext (variantContext path i) (g.convertVariant h path args)
  let record : ShaderRecord := ⟨path.name, variants⟩
  Action.log .info s!"Converted {path.name} ({record.exported.length} variant(s) exported)"
  return record

/-- Converts all shaders of the directory. Mirrors `Generator.run`. -/
def run (g : Generator) (h : Host) : Action (List ShaderRecord) := do
  let shaders ← g.discover h
  Action.log .info s!"Found {shaders.length} shaders in {g.config.shaderDir.text}"
  shaders.mapM (g.convertShader h)

end Generator

/-! ## The module -/

/-- Runs the formatter on the module, if there is one, as the middle of `write_module` does. -/
def formatModule (h : Host) (config : Config) (file : String) : Action Unit := do
  match config.formatter with
  | [] => return ()
  | name :: options =>
    let tool ← Action.resolveTool h name
    match ← Action.run h (tool :: options ++ [file]) with
    | .error e => Action.fail (.tool (.cannotRun none tool e) (some tool) "")
    | .ok result =>
      if result.status ≠ 0 then
        Action.logWords .warning result.stderr
        Action.fail
          (.tool (.failed config.output.text none tool result.status) (some tool) result.stderr)

/-- Moves the finished module to its place, as the end of `write_module` does. -/
def placeModule (h : Host) (file : Path) (output : Path) : Action Unit := do
  match ← Action.move h file.text file.name output.text with
  | .ok () => return ()
  | .error fault =>
    Action.fail (.file (.cannotWrite output.text fault.message) (some output.text))

/-- Writes the module to the scratch directory, formats it there and moves it to its place. Mirrors `write_module`. -/
def writeModule (h : Host) (config : Config) (source : String) (scratch : Path) : Action Path := do
  let file := scratch.join (.ofText config.output.name)
  match ← Action.save h file.text source with
  | .error e => Action.fail (.file (.cannotWrite file.text e.message) (some file.text))
  | .ok () =>
    formatModule h config file.text
    placeModule h file config.output
    return config.output

/-! ## The whole run -/

/-- Makes the scratch directory of a run. -/
def makeScratch (h : Host) : Action Path := do
  let path := Tree.inside h.scratchRoot h.scratchName
  match ← Action.attempt (·.makeDirectory h.here path) with
  | .ok () => return .ofText path
  | .error e =>
    let detail :=
      if e.fault = .occupied then "[Errno 17] No usable temporary directory name found"
      else e.message
    Action.fail (.file (.noScratch detail) none)

/-- Removes the scratch directory with all that is left in it, if it is still there. -/
def removeScratchDir (h : Host) (scratch : Path) : Action Unit :=
  Action.clear (·.removeDirectory h.here scratch.text)

/-- What is done in a scratch directory: converting, emitting, writing. Mirrors what `generate` does in one. -/
def generateIn (h : Host) (config : Config) (glslcc fxc : String) (shaderDir scratch : Path) :
    Action Path := do
  let fxc : Bytecode.Fxc := ⟨fxc, scratch⟩
  let g : Generator :=
    ⟨config, ⟨glslcc, shaderDir, scratch, config.flattenBlocks⟩, fxc.compile h⟩
  let records ← g.run h
  match Go.emitModule config.package records with
  | .ok source => writeModule h config source scratch
  | .error refusal => Action.crash refusal.crash

/-- Generates the module of a configuration, and gives its path. Mirrors `generate`. -/
def generate (h : Host) (config : Config) : Action Path := do
  let glslcc ← Action.resolveTool h config.glslcc
  let fxc ← Action.resolveTool h config.hlslCompiler
  let shaderDir := config.shaderDir.absolute h.path
  if !(← get).tree.isDirectory h.here shaderDir.text then
    Action.fail (.file (.notDirectory config.shaderDir.text) (some shaderDir.text))
  else
    let scratch ← makeScratch h
    let output ← Action.ensure (generateIn h config glslcc fxc shaderDir scratch)
      (removeScratchDir h scratch)
    Action.log .info s!"Wrote {output.text}"
    return output

end ShaderBundle
