import ShaderBundle.Action

/-!
# Scripted tools

Stand-ins for the outside tools, for trying a run out where they are missing. Each of them follows rules: the
first rule that fits a run says how it ends and what it writes.
-/

namespace ShaderBundle

inductive ToolKind
  | glslcc | fxc | formatter
  deriving Repr, DecidableEq

/-- When a run is concerned, and how it goes then. What is not given concerns every run, or goes as usual. -/
structure ToolRule where
  language : Option String := none
  profile : Option String := none
  stage : Option String := none
  entry : Option String := none
  /-- Text that the input has to contain. -/
  holds : Option String := none
  status : Int := 0
  stdout : String := ""
  stderr : String := ""
  /-- Outputs that are not written. -/
  skip : List String := []
  /-- Whether outputs are written even if the run fails. -/
  writesAlways : Bool := false
  source : Option Bytes := none
  reflection : Option Bytes := none
  bytecode : Option Bytes := none
  append : Option String := none
  replace : Option String := none
  remove : Bool := false

structure ScriptedTool where
  kind : ToolKind
  rules : List ToolRule := []
  startFault : Option Fault := none

/-- Tools by the name of their executable. -/
abbrev Toolbox := List (String × ScriptedTool)

namespace Toolbox

/-- The word behind an option. -/
def option? (argv : List String) (name : String) : Option String :=
  match argv.dropWhile (· ≠ name) with
  | _ :: value :: _ => some value
  | _ => none

def fits (wanted : Option String) (value : Option String) : Bool :=
  match wanted with
  | none => true
  | some w => value == some w

/-- What a run is told, as far as rules ask for it. -/
structure Run where
  language : Option String := none
  profile : Option String := none
  stage : Option String := none
  entry : Option String := none
  input : List Char := []

def ToolRule.concerns (rule : ToolRule) (run : Run) : Bool :=
  fits rule.language run.language && fits rule.profile run.profile &&
  fits rule.stage run.stage && fits rule.entry run.entry &&
  (rule.holds.all fun s => Text.contains s.toList run.input)

def choose (rules : List ToolRule) (run : Run) : ToolRule :=
  (rules.find? (ToolRule.concerns · run)).getD {}

/-! ## Writing -/

/-- Writes an output of a run, unless the rule keeps it from being written. -/
def writeOutput (here : Location) (rule : ToolRule) (name path : String) (content : Bytes)
    (t : Tree) : Except FileError Tree :=
  if rule.skip.contains name || (rule.status ≠ 0 && !rule.writesAlways) then .ok t
  else t.writeFile here path content

def resultOf (rule : ToolRule) : ProcessResult := ⟨rule.status, .ok rule.stdout, .ok rule.stderr⟩

/-- The text of an input; bytes that are no text count as none. -/
def inputText (here : Location) (path : String) (t : Tree) : Except FileError (List Char) := do
  let bytes ← t.readFile here path
  match Text.Utf8.decodeFrom false 0 bytes with
  | .ok cs => return cs
  | .error _ => return []

/-! ## The cross compiler -/

def reflectMark : List Char := "// reflect: ".toList

/-- The first line of a translation. -/
def firstLine (argv : List String) (language profile : String) : String :=
  if language = "hlsl" then
    "// hlsl " ++ profile ++ (if argv.contains "--defines=HLSL" then " HLSL" else "")
  else "#version " ++ profile ++ (if profile = "300" then " es" else "")

def defaultSource (argv : List String) (run : Run) : Bytes :=
  let kept := (Text.splitAt '\n' run.input).filter fun line => !reflectMark.isPrefixOf line
  let first := firstLine argv (run.language.getD "") (run.profile.getD "")
  Text.toUtf8 (first ++ "\n" ++ "\n".intercalate (kept.map String.ofList))

/-- What stands behind the last mark, or an empty object. -/
def defaultReflection (run : Run) : Bytes :=
  match ((Text.splitAt '\n' run.input).filter reflectMark.isPrefixOf).getLast? with
  | some line => Text.Utf8.encode (line.drop reflectMark.length)
  | none => Text.toUtf8 "\x7b\x7d"

def runCrossCompiler (here : Location) (rules : List ToolRule) (argv : List String) (t : Tree) :
    Except FileError (ProcessResult × Tree) := do
  let (stage, suffix, input) :=
    match option? argv "--vert" with
    | some path => ("vert", "_vs", path)
    | none => ("frag", "_fs", (option? argv "--frag").getD "")
  let run : Run :=
    { language := option? argv "--lang", profile := option? argv "--profile", stage := some stage
      input := ← inputText here input t }
  let rule := choose rules run
  let output := (option? argv "--output").getD "" ++ suffix
  let t ← writeOutput here rule "source" output (rule.source.getD (defaultSource argv run)) t
  let t ← writeOutput here rule "json" (output ++ ".json")
    (rule.reflection.getD (defaultReflection run)) t
  return (resultOf rule, t)

/-! ## The bytecode compiler and the formatter -/

def runBytecodeCompiler (here : Location) (rules : List ToolRule) (argv : List String) (t : Tree) :
    Except FileError (ProcessResult × Tree) := do
  let run : Run :=
    { profile := option? argv "/T", entry := option? argv "/E"
      input := ← inputText here (argv.getLastD "") t }
  let rule := choose rules run
  let bytecode := rule.bytecode.getD (Text.toUtf8 ("DXBC" ++ run.profile.getD ""))
  let t ← writeOutput here rule "output" ((option? argv "/Fo").getD "") bytecode t
  return (resultOf rule, t)

def runFormatter (here : Location) (rules : List ToolRule) (argv : List String) (t : Tree) :
    Except FileError (ProcessResult × Tree) := do
  let file := argv.getLastD ""
  let input ← inputText here file t
  let rule := choose rules { input }
  let t ← match rule.replace with
    | some s => t.writeFile here file (Text.toUtf8 s)
    | none => .ok t
  let t ← match rule.append with
    | some s => do t.writeFile here file ((← t.readFile here file) ++ Text.toUtf8 s)
    | none => .ok t
  let t ← if rule.remove then t.removeFile here file else .ok t
  return (resultOf rule, t)

/-! ## Starting -/

/-- Runs the tool that a command line names, each time in the same way. An executable that the box does not know
does nothing. -/
def run (box : Toolbox) (here : Location) (toolDir : String) : Tools := fun _ argv t =>
  let program := argv.headD ""
  let path := if program.toList.contains '/' then program else Tree.inside toolDir program
  match t.entry? here path with
  | none => .error ⟨.missing, program⟩
  | some .directory | some (.file _ false) => .error ⟨.forbidden, program⟩
  | some (.file _ true) =>
    match box.lookup (Path.ofText program).name with
    | none => .ok ({}, t)
    | some tool =>
      match tool.startFault with
      | some fault => .error ⟨fault, program⟩
      | none =>
        match tool.kind with
        | .glslcc => runCrossCompiler here tool.rules argv t
        | .fxc => runBytecodeCompiler here tool.rules argv t
        | .formatter => runFormatter here tool.rules argv t

end Toolbox

end ShaderBundle
