import ShaderBundle.Workbench.Report

/-!
# The program

Carries out its command line in the workspace that standard input describes. The log goes to standard error and
the module to standard output.
-/

def main (words : List String) : IO UInt32 := do
  let input ← IO.getStdin
  let document ← input.readToEnd
  match ShaderBundle.Report.ofDocument document words with
  | .error fault =>
    IO.eprintln s!"workspace: {fault}"
    return 2
  | .ok report =>
    for line in report.log do
      IO.eprintln line
    if let some source := report.module then
      IO.print source
    return report.status.toUInt32
