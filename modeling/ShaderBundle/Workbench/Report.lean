import ShaderBundle.CommandLine
import ShaderBundle.Workbench.Description

/-!
# Reports of runs

What there is to show of a command line that was carried out in a described workspace: its log, its module and
its exit status.
-/

namespace ShaderBundle

structure Report where
  status : Nat
  /-- The log, a line for each entry. -/
  log : List String
  /-- The text of the module that was left in its standard place. -/
  module : Option String

namespace Report

def logLine (entry : Level × String) : String := s!"{entry.1.name}: {entry.2}"

/-- How a crash is shown; it ends a run with status 1. -/
def crashLine (f : Failure) : String := s!"crash: {f.message}"

/-- Carries out a command line in a workspace. -/
def ofRun (h : Host) (t : Tree) (env : Environment) (words : List String) : Report :=
  match CommandLine.run h env words { tree := t } with
  | (.ok status, w) =>
    ⟨status, w.log.map logLine, w.tree.textOfFile? h.here Config.standardOutput⟩
  | (.error f, w) =>
    ⟨1, w.log.map logLine ++ [crashLine f], w.tree.textOfFile? h.here Config.standardOutput⟩

/-- Carries out a command line in the workspace that a document describes, with its environment. -/
def ofDocument (document : String) (words : List String) : Except String Report := do
  let v ← (Source.text document).read
  let (box, t) ← Description.workspace v
  let env ← Description.orElse v "env" Description.environment []
  return ofRun (Workspace.host box) t env words

end Report

end ShaderBundle
