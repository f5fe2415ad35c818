import ShaderBundle.CommandLine
import ShaderBundle.Workbench.Workspace

/-!
# Sessions

A session takes single steps of a conversion in a workspace, one after another, and shows after each of them its
outcome, the log and the files. What a step changes is there for the next.
-/

namespace ShaderBundle

/-- Settings of a single step. What is left out is as the configuration says. -/
structure Overrides where
  tool : Option String := none
  includeDir : Option String := none
  scratch : Option String := none
  flattenBlocks : Option Bool := none

inductive Step
  | write (files : List (String × Workspace.Content))
  | remove (paths : List String)
  | read (path : String)
  | configure (config : Config)
  | configureFrom (env : Environment) (package shaderDir : String)
  | resolveTool (name : String)
  | render (path : String) (args : VariantArgs)
  /-- Works in a rendering: reads it, removes it, fails, as asked. -/
  | rendered (path : String) (args : VariantArgs) (scratch : String) (removes : Bool)
      (raises : Option ConvertError)
  | command (path : String) (target : Target) (o : Overrides)
  | convert (path : String) (target : Target) (o : Overrides)
  | fxc (source entry profile : String) (o : Overrides)
  | compile (source : String) (stage : Stage) (entry : String) (o : Overrides)
  | discover
  | convertVariant (path : String) (args : VariantArgs)
  | convertShader (path : String)
  | run
  | writeModule (source scratch : String)
  | generate
  | commandLine (env : Environment) (words : List String)

/-- What a step gives. -/
inductive Answer
  | nothing
  | text (s : String)
  | bytes (bs : Bytes)
  | lines (ls : List String)
  | config (c : Config)
  | translation (source : String) (reflection : Bytes)
  | sources (s : VariantSources)
  | record (r : ShaderRecord)
  | records (rs : List ShaderRecord)
  /-- The path of a rendering and what was read there, as far as it came, and how it ended. -/
  | rendering (path inside : Option String) (failure : Option Failure)
  /-- Where the module is, and its text if it is there. -/
  | module (path : String) (text : Option String)
  | exit (status : Nat) (module : Option String)

namespace Session

/-! ## Actions of the steps -/

def scratchOf (o : Overrides) : Path := .ofText (o.scratch.getD "scratch")

def crossCompiler (h : Host) (c : Config) (o : Overrides) : CrossCompiler where
  tool := o.tool.getD c.glslcc
  includeDir := ((o.includeDir.map Path.ofText).getD c.shaderDir).absolute h.path
  scratch := scratchOf o
  flattenBlocks := o.flattenBlocks.getD c.flattenBlocks

def fxc (c : Config) (o : Overrides) : Bytecode.Fxc := ⟨o.tool.getD c.hlslCompiler, scratchOf o⟩

def generator (h : Host) (c : Config) : Generator :=
  ⟨c, crossCompiler h c {}, (fxc c {}).compile h⟩

/-- The text of a file. -/
def readText (h : Host) (path : String) : Action String := do
  match (← get).tree.readFile h.here path with
  | .error e => Action.crash (.files e)
  | .ok bytes =>
    match Text.Utf8.decode bytes with
    | .ok s => return s
    | .error fault => Action.crash (.undecodable fault)

/-- Works in a rendering, and tells how far that came. -/
def inRendering (h : Host) (path : String) (args : VariantArgs) (scratch : Path) (removes : Bool)
    (raises : Option ConvertError) : Action Answer := fun w =>
  -- what the body has found out survives its failing
  let body (file : Path) : Action (String × String × Option Failure) := do
    let inside ← readText h file.text
    if removes then Action.discard h file.text
    return (file.text, inside, raises.map .reported)
  match Shader.withRendered h path args scratch body w with
  | (.ok (file, inside, failure), w) => (.ok (.rendering (some file) (some inside) failure), w)
  | (.error failure, w) => (.ok (.rendering none none (some failure)), w)

def act (h : Host) (c : Config) : Step → Action Answer
  | .write files => do
    modify fun w =>
      { w with tree := files.foldl (fun t (path, content) => Workspace.putContent t path content) w.tree }
    return .nothing
  | .remove paths => do
    paths.forM fun path => do
      match ← Action.attempt (·.removeAll h.here path) with
      | .ok () => return ()
      | .error e => Action.crash (.files e)
    return .nothing
  | .read path => .text <$> readText h path
  | .configure config => return .config config
  | .configureFrom env package shaderDir =>
    return .config (Config.ofEnvironment env package shaderDir)
  | .resolveTool name => .text <$> Action.resolveTool h name
  | .render path args => .text <$> Shader.render h (.ofText path) args
  | .rendered path args scratch removes raises =>
    inRendering h path args (.ofText scratch) removes raises
  | .command path target o => do
    let stage ← CrossCompiler.stageOf path
    return .lines ((crossCompiler h c o).command path stage target)
  | .convert path target o => do
    let (source, reflection) ← (crossCompiler h c o).convert h path target
    return .translation source reflection
  | .fxc source entry profile o => .bytes <$> (fxc c o).compile h source entry profile
  | .compile source stage entry o =>
    .bytes <$> Bytecode.compile ((fxc c o).compile h) source stage entry
  | .discover => do return .lines ((← (generator h c).discover h).map Path.text)
  | .convertVariant path args => .sources <$> (generator h c).convertVariant h (.ofText path) args
  | .convertShader path => .record <$> (generator h c).convertShader h (.ofText path)
  | .run => .records <$> (generator h c).run h
  | .writeModule source scratch => do
    return .text (← ShaderBundle.writeModule h c source (.ofText scratch)).text
  | .generate => do
    let path ← ShaderBundle.generate h c
    return .module path.text ((← get).tree.textOfFile? h.here path.text)
  | .commandLine env words => do
    let status ← CommandLine.run h env words
    return .exit status ((← get).tree.textOfFile? h.here Config.standardOutput)

/-! ## Running -/

structure State where
  tree : Tree
  config : Config

/-- What is shown after a step. -/
structure Shown where
  outcome : Except Failure Answer
  log : List (Level × String)
  listing : List String

/-- Takes a step; a new configuration holds from then on. -/
def step (h : Host) (s : State) (next : Step) : Shown × State :=
  let (outcome, w) := act h s.config next { tree := s.tree }
  let config := match outcome with
    | .ok (.config c) => c
    | _ => s.config
  (⟨outcome, w.log, Workspace.listing w.tree⟩, ⟨w.tree, config⟩)

/-- Takes steps that each may look at the configuration. -/
def runSteps (h : Host) (s : State) : List (Config → Step) → List Shown
  | [] => []
  | next :: rest =>
    let (shown, s) := step h s (next s.config)
    shown :: runSteps h s rest

end Session

end ShaderBundle
