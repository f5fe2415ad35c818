import ShaderBundle.Text.Search

/-!
# Paths

A path is a root of no, one or two slashes and the names below it. Empty names and single dots are
left out when a path is read; double dots stay.
-/

namespace ShaderBundle

structure Path where
  /-- How many slashes it starts with: none for a relative path. -/
  root : Nat
  parts : List String
  deriving Repr, BEq, DecidableEq

namespace Path

/-- Two leading slashes are kept as two, three or more count as one. -/
def rootOf (slashes : Nat) : Nat := if slashes > 2 then 1 else slashes

def isPart (name : String) : Bool := name != "" && name != "."

def ofText (s : String) : Path :=
  let cs := s.toList
  ⟨rootOf (cs.takeWhile (· == '/')).length, (Text.splitOn '/' s).filter isPart⟩

def text (p : Path) : String :=
  if p.root = 0 ∧ p.parts = [] then "."
  else String.ofList (List.replicate p.root '/') ++ "/".intercalate p.parts

def isAbsolute (p : Path) : Bool := p.root > 0

/-- The last name, empty when there is none. -/
def name (p : Path) : String := p.parts.getLastD ""

def parent (p : Path) : Path := { p with parts := p.parts.dropLast }

/-- One name further down. -/
def child (p : Path) (name : String) : Path := { p with parts := p.parts ++ [name] }

/-- A path read from another one; an absolute path stays what it is. -/
def join (p q : Path) : Path :=
  if q.isAbsolute then q else { p with parts := p.parts ++ q.parts }

/-- The path from the root, for a relative one read from `here`. -/
def absolute (p : Path) (here : Path) : Path := here.join p

/-- The characters from the last dot on, the dot among them. -/
def fromLastDot (cs : List Char) : Option (List Char) :=
  let after := (cs.reverse.takeWhile (· ≠ '.')).reverse
  if after.length = cs.length then none else some ('.' :: after)

/-- The suffix of a file name: from its last dot on, unless the name starts or ends with it. -/
def suffixOf (name : String) : String :=
  let cs := name.toList
  match fromLastDot cs with
  | some suffix => if suffix.length < cs.length ∧ 1 < suffix.length then String.ofList suffix else ""
  | none => ""

def suffix (p : Path) : String := suffixOf p.name

@[simp] theorem name_child (p : Path) (n : String) : (p.child n).name = n := by
  simp [child, name]

@[simp] theorem parent_child (p : Path) (n : String) : (p.child n).parent = p := by
  simp [child, parent]

end Path

end ShaderBundle
