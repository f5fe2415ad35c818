import ShaderBundle.Files.Fault
import ShaderBundle.Go.Module
import ShaderBundle.Reflection.Reader

/-!
# Failures

A conversion ends with a reported error, which says what went wrong with which shader, or with a crash:
an error of a template's expression or of the run itself that no step reports.
-/

namespace ShaderBundle

/-- A shader could not be read or rendered. -/
inductive TemplateProblem
  | unreadable (path : String)
  | malformed (path : String) (line : Nat) (detail : String)
  | undefined (path detail : String)
  | undecodable (path detail : String)
  | note (text : String)
  deriving Repr, DecidableEq

def TemplateProblem.detail : TemplateProblem → String
  | .unreadable path => s!"{path}: cannot read shader"
  | .malformed path line detail => s!"{path}:{line}: {detail}"
  | .undefined path detail => s!"{path}: {detail}"
  | .undecodable path detail => s!"{path}: {detail}"
  | .note text => text

/-- A tool failed, or left no output. -/
inductive ToolProblem
  | notFound (name : String)
  | unknownStage (path : String)
  /-- It could not be started, for a shader or on its own. -/
  | cannotRun (shader : Option String) (tool : String) (e : FileError)
  /-- It ended with a status other than zero; the label names the translation, if it was one. -/
  | failed (path : String) (label : Option String) (tool : String) (status : Int)
  | noOutput (path label tool detail : String)
  | note (text : String)
  deriving Repr, DecidableEq

def ToolProblem.message : ToolProblem → String
  | .notFound name => s!"{name}: executable not found"
  | .unknownStage path => s!"unrecognized shader type: {path}"
  | .cannotRun shader tool e =>
    (shader.map (· ++ ": ")).getD "" ++ s!"cannot run {tool}: {e.message}"
  | .failed path label tool status =>
    path ++ (label.map (s!" ({·})")).getD "" ++ s!": {tool} exited with status {status}"
  | .noOutput path label tool detail => s!"{path} ({label}): missing output from {tool}: {detail}"
  | .note text => text

/-- A file could not be used. -/
inductive FileProblem
  | cannotWrite (path detail : String)
  | cannotList (path : String) (e : FileError)
  | notDirectory (path : String)
  | noScratch (detail : String)
  | note (text : String)
  deriving Repr, DecidableEq

def FileProblem.message : FileProblem → String
  | .cannotWrite path detail => s!"{path}: cannot write: {detail}"
  | .cannotList path e => s!"{path}: cannot list shaders: {e.message}"
  | .notDirectory path => s!"{path}: not a directory"
  | .noScratch detail => s!"cannot create scratch directory: {detail}"
  | .note text => text

/-- What went wrong. The tool's own words are kept beside the message, which stays one line. -/
inductive Cause
  | other (text : String)
  | template (problem : TemplateProblem) (path : Option String)
  | tool (problem : ToolProblem) (tool : Option String) (stderr : String)
  | file (problem : FileProblem) (path : Option String)
  | reflection (problem : Reflection.Problem)
  | bytecode (profile stderr : String)

def Cause.message : Cause → String
  | .other text => text
  | .template problem _ => s!"Template error: {problem.detail}"
  | .tool problem _ _ => problem.message
  | .file problem _ => problem.message
  | .reflection problem => problem.message
  | .bytecode profile _ => s!"HLSL compilation failed for profile {profile}"

/-- A reported error, and the shader and variant it arose with. -/
structure ConvertError where
  cause : Cause
  context : Option String := none

def ConvertError.message (e : ConvertError) : String :=
  match e.context with
  | none | some "" => e.cause.message
  | some context => s!"{context}: {e.cause.message}"

/-- The words for a whole number with more than 4300 digits. -/
def integerTooLong : String :=
  "Exceeds the limit (4300 digits) for integer string conversion; " ++
    "use sys.set_int_max_str_digits() to increase the limit"

/-- An error that no step reports. -/
inductive Crash
  | wrongType (text : String)
  | divisionByZero (text : String)
  | badValue (text : String)
  | badIndex (text : String)
  | badKey (text : String)
  | overflow (text : String)
  | templateRuntime (text : String)
  | tooDeep
  | files (e : FileError)
  | undecodable (f : Text.DecodeFault)
  deriving Repr, DecidableEq

/-- What refused records are reported as. -/
def Go.Refusal.crash : Go.Refusal → Crash
  | .noVariant => .badIndex "list index out of range"
  | .longInteger => .badValue integerTooLong

namespace Crash

/-- A text with a surrogate in it is to be written. -/
def unencodable (f : Text.EncodeFault) : Crash := .badValue f.message

/-- A path or a word of a command line holds a NUL. -/
def nullByte : Crash := .badValue "embedded null byte"

end Crash

def Crash.message : Crash → String
  | .wrongType text | .divisionByZero text | .badValue text | .badIndex text | .badKey text
  | .overflow text | .templateRuntime text => text
  | .tooDeep => "maximum recursion depth exceeded"
  | .files e => e.message
  | .undecodable f => f.message

inductive Failure
  | reported (e : ConvertError)
  | crashed (c : Crash)

def Failure.message : Failure → String
  | .reported e => e.message
  | .crashed c => c.message

end ShaderBundle
