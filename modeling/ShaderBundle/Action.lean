import ShaderBundle.Failure
import ShaderBundle.Files.Path
import ShaderBundle.Files.Tree
import ShaderBundle.Text.Blank

/-!
# Actions

What a conversion does to its surroundings: it changes a file tree, writes a log and runs tools. A
host says where it runs and how its tools and its disk behave. A failed action keeps the changes made before it
failed.

Left out are permissions, but for that to run a file, and a disk that fails where it reads, makes a directory or
removes. A path that cannot be given to the system leads nowhere there.
-/

namespace ShaderBundle

/-! ## Hosts -/

/-- What a tool prints to one of its two streams, or why that is no text. -/
abbrev Words := Except Text.DecodeFault String

/-- What a tool that was started leaves behind besides its files. -/
structure ProcessResult where
  status : Int := 0
  stdout : Words := .ok ""
  stderr : Words := .ok ""
  deriving Repr

/-- The same, once the words are read. -/
structure ProcessReport where
  status : Int
  stdout : String
  stderr : String
  deriving Repr, DecidableEq

/-- Both streams are read, and what is said on the first one counts first. -/
def ProcessResult.read (r : ProcessResult) : Except Text.DecodeFault ProcessReport := do
  return ⟨r.status, ← r.stdout, ← r.stderr⟩

/-- How tools behave: running a command line on a tree fails to start, or gives a result and a changed
tree. The number of earlier runs is given too, as a tool need not do the same twice. -/
abbrev Tools := (earlier : Nat) → List String → Tree → Except FileError (ProcessResult × Tree)

/-- Why no tool is started: the system refuses to, or it is not even asked, as its command line cannot be given to it. -/
inductive StartFault
  | refused (e : FileError)
  | unfit (c : Crash)
  deriving Repr, DecidableEq

/-- Why a path or a word of a command line cannot be given to the system: a surrogate in it that stands for no byte, or
a NUL. -/
def unfit? (word : String) : Option Crash :=
  match Text.encodeFaultFrom? Text.isStraySurrogate 0 (Text.chars word) with
  | some fault => some (.unencodable fault)
  | none => if (Text.chars word).contains '\x00' then some .nullByte else none

def isPlain (word : String) : Bool := (unfit? word).isNone

/-- What comes of a command line, if this comes of one that can be given to the system. -/
def ifPlain {α : Type} (argv : List String) (outcome : Except FileError α) : Except StartFault α :=
  match argv.findSome? unfit? with
  | some c => .error (.unfit c)
  | none => outcome.mapError .refused

structure Host where
  /-- The directory that relative paths are read from. -/
  here : Location
  /-- The directories in which tools are looked up by name. -/
  toolPath : List String
  /-- The directory in which scratch directories are made. -/
  scratchRoot : String
  /-- The name that a scratch directory gets. -/
  scratchName : String
  tools : Tools
  /-- How many bytes of a file get written, after so many runs, and why no more: a full disk, say. For a file
  that gets written as a whole there is none. -/
  disk : (earlier : Nat) → (path : String) → Bytes → Option (Nat × Fault) := fun _ _ _ => none
  /-- Whether the scratch directory is out of reach of a rename, as on another device: a file is copied from there. -/
  apart : Bool := false

namespace Host

/-- The path of the current directory. -/
def path (h : Host) : Path := ⟨1, h.here⟩

/-- An executable by name, or by path if the name holds a slash. -/
def findTool? (h : Host) (t : Tree) (name : String) : Option String :=
  if name.toList.contains '/' then if t.isExecutable h.here name then some name else none
  else (h.toolPath.map (Tree.inside · name)).find? (t.isExecutable h.here)

/-- What comes of a command line. -/
def start (h : Host) (earlier : Nat) (argv : List String) (t : Tree) : Except StartFault (ProcessResult × Tree) :=
  ifPlain argv (h.tools earlier argv t)

end Host

/-! ## The world -/

inductive Level
  | debug | info | warning | error
  deriving Repr, DecidableEq

/-- The word for a level in a log. -/
def Level.name : Level → String
  | .debug => "DEBUG"
  | .info => "INFO"
  | .warning => "WARNING"
  | .error => "ERROR"

structure World where
  tree : Tree
  log : List (Level × String) := []
  /-- The command lines of all runs so far, with those that no tool was started for. -/
  runs : List (List String) := []

abbrev Action := ExceptT Failure (StateM World)

namespace Action

def log (level : Level) (text : String) : Action Unit :=
  modify fun w => { w with log := w.log ++ [(level, text)] }

/-- Logs a tool's words, unless they are blank. -/
def logWords (level : Level) (words : String) : Action Unit :=
  if Text.isAllBlank words then pure () else log level (Text.trimEnd words)

def fail {α : Type} (cause : Cause) : Action α := throw (.reported { cause })

def crash {α : Type} (c : Crash) : Action α := throw (.crashed c)

/-- Does `after` however `body` ends. A failure of `after` is the one that counts. -/
def ensure {α : Type} (body : Action α) (after : Action Unit) : Action α := fun w =>
  match body w with
  | (result, w) =>
    match after w with
    | (.ok (), w) => (result, w)
    | (.error f, w) => (.error f, w)

/-- Names the shader and variant with which a reported error arose. -/
def inContext {α : Type} (context : String) (body : Action α) : Action α := fun w =>
  match body w with
  | (.error (.reported e), w) => (.error (.reported { e with context := some context }), w)
  | other => other

/-- Looks something up in the tree. -/
def ask {α : Type} (question : Tree → α) : Action α := return question (← get).tree

/-- Tries an operation on the tree; a refused one changes nothing. -/
def attempt (operation : Tree → Except FileError Tree) : Action (Except FileError Unit) := do
  match operation (← get).tree with
  | .ok t =>
    modify fun w => { w with tree := t }
    return .ok ()
  | .error e => return .error e

/-- Removes a file if it can be removed. -/
def discard (h : Host) (path : String) : Action Unit := do
  let _ ← attempt (·.removeFile h.here path)

/-- Takes away what may be gone already. If something else is in its place, that is a crash. -/
def clear (operation : Tree → Except FileError Tree) : Action Unit := do
  match ← attempt operation with
  | .ok () => return ()
  | .error e => if e.fault = .missing then return () else crash (.files e)

/-- Runs a tool. Words of it that are no text are not reported: they end the run with a crash, once the tool is done. -/
def run (h : Host) (argv : List String) : Action (Except FileError ProcessReport) := do
  log .debug ("Running " ++ " ".intercalate argv)
  let earlier := (← get).runs.length
  modify fun w => { w with runs := w.runs ++ [argv] }
  match h.start earlier argv (← get).tree with
  | .error (.refused e) => return .error e
  | .error (.unfit c) => crash c
  | .ok (result, t) =>
    modify fun w => { w with tree := t }
    match result.read with
    | .ok report => return .ok report
    | .error fault => crash (.undecodable fault)

/-- The path of a tool that has to exist. Mirrors `resolve_tool`. -/
def resolveTool (h : Host) (name : String) : Action String := do
  match h.findTool? (← get).tree name with
  | some path => return path
  | none => fail (.tool (.notFound name) (some name) "")

/-! ## Writing and moving -/

/-- Why a file is not written, or only a part of it. -/
inductive WriteFault
  | refused (e : FileError)
  | cut (fault : Fault)
  deriving Repr, DecidableEq

def WriteFault.message : WriteFault → String
  | .refused e => e.message
  | .cut fault => fault.message

/-- What gets written of a file, and why no more if it is not all of it. -/
def part (h : Host) (earlier : Nat) (path : String) (content : Bytes) : Bytes × Option Fault :=
  match h.disk earlier path content with
  | none => (content, none)
  | some (n, fault) => (content.take n, some fault)

/-- Writes a file. Where the disk cuts it short, what was there before is gone, and the part stays. -/
def write (h : Host) (path : String) (content : Bytes) : Action (Except WriteFault Unit) := do
  match unfit? path with
  | some c => crash c
  | none =>
    let (written, cut) := part h (← get).runs.length path content
    match ← attempt (·.writeFile h.here path written) with
    | .error e => return .error (.refused e)
    | .ok () =>
      match cut with
      | none => return .ok ()
      | some fault => return .error (.cut fault)

/-- Writes a text. A surrogate cannot be written, and is not reported. -/
def save (h : Host) (path text : String) : Action (Except WriteFault Unit) :=
  match Text.encode text with
  | .ok bytes => write h path bytes
  | .error fault => crash (.unencodable fault)

/-- The part of a moved file that is copied to its place, if it has to be copied and that is cut short. -/
def copied? (h : Host) (earlier : Nat) (t : Tree) (source place : String) : Option (Bytes × Fault) :=
  match h.apart, t.readFile h.here source with
  | true, .ok content =>
    match part h earlier place content with
    | (written, some fault) => some (written, fault)
    | (_, none) => none
  | _, _ => none

/-- Moves a file to a path, or into the directory there, under its name. A copy that is cut short stays where it
should have gone, in the place of what was there, and the file stays too. -/
def move (h : Host) (source name target : String) : Action (Except Tree.MoveFault Unit) := do
  match unfit? target with
  | some c => crash c
  | none =>
    let w ← get
    let place := w.tree.destination h.here name target
    match w.tree.moveFile h.here source name target, copied? h w.runs.length w.tree source place with
    | .error fault, _ => return .error fault
    | .ok t, none =>
      modify fun w => { w with tree := t }
      return .ok ()
    | .ok _, some (written, fault) =>
      match ← attempt (·.writeFile h.here place written) with
      | .error e => return .error (.refused e)
      | .ok () => return .error (.cut fault source place)

end Action

end ShaderBundle
