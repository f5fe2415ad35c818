import ShaderBundle.Text.Display

/-!
# Faults of the operating system

A refused operation has a number and a text; together with the path it was refused for it makes the
line that messages quote.
-/

namespace ShaderBundle

structure Fault where
  number : Int
  text : String
  deriving Repr, DecidableEq

namespace Fault

def message (f : Fault) : String := s!"[Errno {f.number}] {f.text}"

def missing : Fault := ⟨2, "No such file or directory"⟩
def forbidden : Fault := ⟨13, "Permission denied"⟩
def occupied : Fault := ⟨17, "File exists"⟩
def notDirectory : Fault := ⟨20, "Not a directory"⟩
def isDirectory : Fault := ⟨21, "Is a directory"⟩

end Fault

/-- A fault and the path it was met on, as it was written. -/
structure FileError where
  fault : Fault
  path : String
  deriving Repr, DecidableEq

def FileError.message (e : FileError) : String := s!"{e.fault.message}: {Text.display e.path}"

end ShaderBundle
