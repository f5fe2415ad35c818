import ShaderBundle.Generate

/-!
# The command line

`--package NAME` names the generated package and has to be given; `--dir DIR` names the directory of the shaders;
`--help` explains both. A value may follow its option or be joined to it by an equals sign; the last one given
counts.
-/

namespace ShaderBundle.CommandLine

/-- What a command line asks for. -/
inductive Request
  | help
  | misuse
  | convert (package shaderDir : String)
  deriving Repr, DecidableEq

/-- What has been read of a command line. -/
structure Reading where
  package : Option String := none
  shaderDir : Option String := none
  help : Bool := false
  /-- Words that belong to no option. -/
  extra : Bool := false
  deriving Repr, DecidableEq

/-- An option and the value joined to it. -/
def splitOption (word : String) : String × Option String :=
  match Text.cut ['='] word.toList with
  | some (before, after) => (String.ofList before, some (String.ofList after))
  | none => (word, none)

/-- Whether a word is an option: a dash and something behind it. -/
def isOption (word : String) : Bool :=
  match word.toList with
  | '-' :: _ :: _ => true
  | _ => false

/-- Takes in an option with its value; an unknown one is refused. -/
def Reading.withValue (r : Reading) (option value : String) : Option Reading :=
  if option = "--package" then some { r with package := some value }
  else if option = "--dir" then some { r with shaderDir := some value }
  else none

/-- Reads words up to the end; `none` stands for a word that cannot be read. -/
def readWords (r : Reading) : List String → Option Reading
  | [] => some r
  | word :: rest =>
    if word = "--" then some { r with extra := r.extra || !rest.isEmpty }
    else if isOption word then
      match splitOption word with
      | ("--help", none) => readWords { r with help := true } rest
      | (option, some value) => (r.withValue option value).bind fun r => readWords r rest
      | (option, none) =>
        match rest with
        | [] => none
        | value :: rest => (r.withValue option value).bind fun r => readWords r rest
    else readWords { r with extra := true } rest

/-- A request for help counts before what is missing or too much. -/
def parse (words : List String) : Request :=
  match readWords {} words with
  | none => .misuse
  | some r =>
    if r.help then .help
    else
      match r.package with
      | none => .misuse
      | some package =>
        if r.extra then .misuse else .convert package (r.shaderDir.getD "shaders")

/-- Carries out a command line, and gives its exit status. A reported error is logged; a crash is not
caught. Mirrors the command `convert`. -/
def run (h : Host) (env : Environment) (words : List String) : Action Nat :=
  match parse words with
  | .help => return 0
  | .misuse => return 2
  | .convert package shaderDir => fun w =>
    match generate h (Config.ofEnvironment env package shaderDir) w with
    | (.ok _, w) => (.ok 0, w)
    | (.error (.reported e), w) =>
      (do
        Action.log .error s!"generate: {e.message}"
        return 1 : Action Nat) w
    | (.error (.crashed c), w) => (.error (.crashed c), w)

end ShaderBundle.CommandLine
